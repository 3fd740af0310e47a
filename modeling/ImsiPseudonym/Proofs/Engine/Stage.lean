import ImsiPseudonym.Proofs.Dialogue.Progress
import ImsiPseudonym.Proofs.Engine.Tree

/-!
A fetch as a machine.  A stage is what the fetch says next together with the engine as it is by
then, so that the token which is cached in the middle of a fetch can be spoken of.  Main statement:
`remaining_begin`, by which the machine says and does what `Engine.fetch` does, whatever the
partners answer.
-/
namespace ImsiPseudonym

open Text

/-- Where a fetch stands.  Before its end it counts the attempts that are left after this one. -/
inductive Stage where
  /-- It asks the server for a challenge. -/
  | challenge (e : Engine) (attempts : Nat) (body : Json.Value)
  /-- It asks the SIM. -/
  | sim (e : Engine) (attempts : Nat) (challenge : String)
  /-- It asks the server for the pseudonym, with this challenge response. -/
  | pseudonym (e : Engine) (attempts : Nat) (response : Option String) (body : Json.Value)
  | ended (e : Engine) (result : FetchResult)

namespace Stage

def engine : Stage → Engine
  | .challenge e _ _ => e
  | .sim e _ _ => e
  | .pseudonym e _ _ _ => e
  | .ended e _ => e

def request? : Stage → Option Request
  | .challenge e _ body => some ⟨e.server, body⟩
  | .sim .. => none
  | .pseudonym e _ _ body => some ⟨e.server, body⟩
  | .ended .. => none

/-- The stage that asks for a challenge; a fetch ends there while the device is unknown. -/
def toChallenge (e : Engine) (attempts : Nat) : Stage :=
  match e.subscriber.challengeRequest? with
  | none => .ended e (.error Engine.deviceUnknown)
  | some body => .challenge e attempts body

/-- The stage that asks for the pseudonym; a fetch ends there while the device is unknown. -/
def toPseudonym (e : Engine) (attempts : Nat) (response : Option String) : Stage :=
  match e.subscriber.pseudonymRequest? e.token response with
  | none => .ended e (.error Engine.deviceUnknown)
  | some body => .pseudonym e attempts response body

/-- The failure of a fetch whose token was rejected in its last attempt. -/
def exhausted : EntitlementError := .transient "AKA token rejected after retry"

def begin : Nat → Engine → Stage
  | 0, e => .ended e (.error exhausted)
  | attempts + 1, e =>
      if e.token.isNone then toChallenge e attempts else toPseudonym e attempts none

def challengeReplied (e : Engine) (attempts : Nat) : Reply → Stage
  | .error broken => .ended e (.error (.transport broken))
  | .ok body =>
      let answer := ChallengeResponse.ofBody body
      if answer.authCode = .challenge then
        match nonEmpty? answer.challenge with
        | none => toPseudonym e attempts none
        | some said => .sim e attempts said
      else .ended e (.error (challengeRefused answer.authCode))

def simAnswered (e : Engine) (attempts : Nat) : SimAnswer → Stage
  | none => .ended e (.error (.nonTransient "cannot get challenge response"))
  | some said =>
      match said.challengeResponse? with
      | none => .ended e (.error (.transient "challenge message not valid"))
      | some response => toPseudonym e attempts (some response)

def pseudonymReplied (e : Engine) (attempts : Nat) (response : Option String) : Reply → Stage
  | .error broken => .ended e (.error (.transport broken))
  | .ok body =>
      let answer := PseudonymResponse.ofBody body
      match Verdict.ofCode answer.authCode e.token.isSome with
      | .refused failure => .ended e (.error failure)
      | .tokenRejected => begin attempts e.clearToken
      | .accepted => .ended (e.keepToken answer response) (e.granted answer)

theorem begin_cases (e : Engine) (attempts : Nat) :
    (e.token = none ∧ begin (attempts + 1) e = toChallenge e attempts) ∨
    ∃ token, e.token = some token ∧ begin (attempts + 1) e = toPseudonym e attempts none := by
  simp only [begin]
  cases e.token with
  | none => exact Or.inl ⟨rfl, rfl⟩
  | some token => exact Or.inr ⟨token, rfl, rfl⟩

theorem challengeReplied_cases (e : Engine) (attempts : Nat) (reply : Reply) :
    (∃ broken, reply = .error broken ∧
      challengeReplied e attempts reply = .ended e (.error (.transport broken))) ∨
    ∃ body, reply = .ok body ∧
      ((ChallengeResponse.ofBody body).authCode ≠ .challenge ∧
        challengeReplied e attempts reply =
          .ended e (.error (challengeRefused (ChallengeResponse.ofBody body).authCode)) ∨
      (ChallengeResponse.ofBody body).authCode = .challenge ∧
        (nonEmpty? (ChallengeResponse.ofBody body).challenge = none ∧
          challengeReplied e attempts reply = toPseudonym e attempts none ∨
        ∃ said, nonEmpty? (ChallengeResponse.ofBody body).challenge = some said ∧
          challengeReplied e attempts reply = .sim e attempts said)) := by
  cases reply with
  | error broken => exact Or.inl ⟨broken, rfl, rfl⟩
  | ok body =>
      refine Or.inr ⟨body, rfl, ?_⟩
      simp only [challengeReplied]
      by_cases hcode : (ChallengeResponse.ofBody body).authCode = .challenge
      · refine Or.inr ⟨hcode, ?_⟩
        rw [if_pos hcode]
        cases hsaid : nonEmpty? (ChallengeResponse.ofBody body).challenge with
        | none => exact Or.inl ⟨rfl, rfl⟩
        | some said => exact Or.inr ⟨said, rfl, rfl⟩
      · exact Or.inl ⟨hcode, if_neg hcode⟩

theorem simAnswered_cases (e : Engine) (attempts : Nat) (answer : SimAnswer) :
    (answer = none ∧ simAnswered e attempts answer =
      .ended e (.error (.nonTransient "cannot get challenge response"))) ∨
    ∃ said, answer = some said ∧
      (said.challengeResponse? = none ∧ simAnswered e attempts answer =
          .ended e (.error (.transient "challenge message not valid")) ∨
      ∃ response, said.challengeResponse? = some response ∧
        simAnswered e attempts answer = toPseudonym e attempts (some response)) := by
  cases answer with
  | none => exact Or.inl ⟨rfl, rfl⟩
  | some said =>
      refine Or.inr ⟨said, rfl, ?_⟩
      simp only [simAnswered]
      cases said.challengeResponse? with
      | none => exact Or.inl ⟨rfl, rfl⟩
      | some response => exact Or.inr ⟨response, rfl, rfl⟩

/-- A fetch goes on from a request for the pseudonym only if its token is rejected. -/
theorem pseudonymReplied_cases (e : Engine) (attempts : Nat) (response : Option String)
    (reply : Reply) :
    (∃ broken, reply = .error broken ∧
      pseudonymReplied e attempts response reply = .ended e (.error (.transport broken))) ∨
    ∃ body, reply = .ok body ∧
      ((∃ failure,
        Verdict.ofCode (PseudonymResponse.ofBody body).authCode e.token.isSome =
          .refused failure ∧
        pseudonymReplied e attempts response reply = .ended e (.error failure)) ∨
      (Verdict.ofCode (PseudonymResponse.ofBody body).authCode e.token.isSome =
          .tokenRejected ∧ e.token ≠ none ∧
        pseudonymReplied e attempts response reply = begin attempts e.clearToken) ∨
      (Verdict.ofCode (PseudonymResponse.ofBody body).authCode e.token.isSome = .accepted ∧
        pseudonymReplied e attempts response reply =
          .ended (e.keepToken (.ofBody body) response) (e.granted (.ofBody body)))) := by
  cases reply with
  | error broken => exact Or.inl ⟨broken, rfl, rfl⟩
  | ok body =>
      refine Or.inr ⟨body, rfl, ?_⟩
      simp only [pseudonymReplied]
      cases hverdict :
          Verdict.ofCode (PseudonymResponse.ofBody body).authCode e.token.isSome with
      | refused failure => exact Or.inl ⟨failure, rfl, rfl⟩
      | tokenRejected =>
          have hsent := (Verdict.ofCode_eq_tokenRejected_iff.mp hverdict).2
          exact Or.inr (Or.inl ⟨rfl, Option.isSome_iff_ne_none.mp hsent, rfl⟩)
      | accepted => exact Or.inr (Or.inr ⟨rfl, rfl⟩)

inductive Step : Stage → Turn → Stage → Prop where
  | challenge {e : Engine} {attempts : Nat} {body : Json.Value} (reply : Reply) :
      Step (.challenge e attempts body) (.sent ⟨e.server, body⟩ reply)
        (challengeReplied e attempts reply)
  | sim {e : Engine} {attempts : Nat} {challenge : String} (answer : SimAnswer) :
      Step (.sim e attempts challenge) (.asked challenge (.answers answer))
        (simAnswered e attempts answer)
  | pseudonym {e : Engine} {attempts : Nat} {response : Option String} {body : Json.Value}
      (reply : Reply) :
      Step (.pseudonym e attempts response body) (.sent ⟨e.server, body⟩ reply)
        (pseudonymReplied e attempts response reply)

inductive Leads : Stage → List Turn → Stage → Prop where
  | refl (s : Stage) : Leads s [] s
  | cons {s t u : Stage} {turn : Turn} {turns : List Turn} (hstep : Step s turn t)
      (hleads : Leads t turns u) : Leads s (turn :: turns) u

/-- The last of some turns is taken on its own. -/
theorem Leads.eq_nil_or_snoc {s u : Stage} {turns : List Turn} (h : s.Leads turns u) :
    turns = [] ∧ s = u ∨
      ∃ before turn t, turns = before ++ [turn] ∧ s.Leads before t ∧ t.Step turn u := by
  induction h with
  | refl s => exact Or.inl ⟨rfl, rfl⟩
  | @cons s t u turn turns hstep hleads ih =>
      refine Or.inr ?_
      rcases ih with ⟨rfl, rfl⟩ | ⟨before, last, v, rfl, hbefore, hlast⟩
      · exact ⟨[], turn, s, rfl, .refl s, hstep⟩
      · exact ⟨turn :: before, last, v, rfl, .cons hstep hbefore, hlast⟩

/-- What remains to be said at a stage, with the result of the fetch and the engine left behind. -/
inductive Remaining : Stage → Dialogue (FetchResult × Engine) → Prop where
  | challenge {e : Engine} {attempts : Nat} {body : Json.Value}
      {next : Reply → Dialogue (FetchResult × Engine)}
      (h : ∀ reply, Remaining (challengeReplied e attempts reply) (next reply)) :
      Remaining (.challenge e attempts body) (.send ⟨e.server, body⟩ next)
  | sim {e : Engine} {attempts : Nat} {said : String}
      {next : SimAnswer → Dialogue (FetchResult × Engine)}
      (h : ∀ answer, Remaining (simAnswered e attempts answer) (next answer)) :
      Remaining (.sim e attempts said) (.ask said next)
  | pseudonym {e : Engine} {attempts : Nat} {response : Option String} {body : Json.Value}
      {next : Reply → Dialogue (FetchResult × Engine)}
      (h : ∀ reply, Remaining (pseudonymReplied e attempts response reply) (next reply)) :
      Remaining (.pseudonym e attempts response body) (.send ⟨e.server, body⟩ next)
  | ended (e : Engine) (result : FetchResult) : Remaining (.ended e result) (.done (result, e))

variable {attempts : Nat}

private theorem remaining_toPseudonym
    (hrejected : ∀ e, (begin attempts e).Remaining (Engine.fetchWithin attempts e))
    (e : Engine) (response : Option String) :
    (toPseudonym e attempts response).Remaining (e.conclude attempts (.ok response)) := by
  simp only [toPseudonym, Engine.conclude]
  cases e.subscriber.pseudonymRequest? e.token response with
  | none => exact .ended e _
  | some body =>
      refine .pseudonym fun reply => ?_
      cases reply with
      | error broken => exact .ended e _
      | ok text =>
          simp only [pseudonymReplied, Engine.concludeFrom]
          cases Verdict.ofCode (PseudonymResponse.ofBody text).authCode e.token.isSome with
          | refused failure => exact .ended e _
          | tokenRejected => exact hrejected e.clearToken
          | accepted => exact .ended _ _

private theorem remaining_challengeReplied
    (hrejected : ∀ e, (begin attempts e).Remaining (Engine.fetchWithin attempts e))
    (e : Engine) (reply : Reply) :
    (challengeReplied e attempts reply).Remaining
      (Engine.authenticateFrom reply >>= e.conclude attempts) := by
  cases reply with
  | error broken => exact .ended e _
  | ok text =>
      by_cases hcode : (ChallengeResponse.ofBody text).authCode = .challenge
      · simp only [challengeReplied, Engine.authenticateFrom, hcode, ↓reduceIte]
        cases nonEmpty? (ChallengeResponse.ofBody text).challenge with
        | none => exact remaining_toPseudonym hrejected e none
        | some said =>
            refine .sim fun answer => ?_
            cases answer with
            | none => exact .ended e _
            | some answer =>
                simp only [simAnswered, Engine.responseOf]
                cases answer.challengeResponse? with
                | none => exact .ended e _
                | some response => exact remaining_toPseudonym hrejected e (some response)
      · simp only [challengeReplied, Engine.authenticateFrom, hcode, ↓reduceIte]
        exact .ended e _

private theorem remaining_toChallenge
    (hrejected : ∀ e, (begin attempts e).Remaining (Engine.fetchWithin attempts e))
    (e : Engine) :
    (toChallenge e attempts).Remaining (e.authenticate.run >>= e.conclude attempts) := by
  unfold toChallenge
  cases hbody : e.subscriber.challengeRequest? with
  | none =>
      simp only [Engine.authenticate, hbody]
      exact .ended e _
  | some body =>
      rw [Engine.authenticate_run e hbody]
      exact .challenge (remaining_challengeReplied hrejected e)

/-- At its first stage a fetch is all that remains to be said. -/
theorem remaining_begin (attempts : Nat) (e : Engine) :
    (begin attempts e).Remaining (Engine.fetchWithin attempts e) := by
  -- Only a rejected token uses up an attempt, and what follows that is the induction hypothesis.
  induction attempts generalizing e with
  | zero => exact .ended e _
  | succ attempts ih =>
      rw [Engine.fetchWithin_succ, begin, Engine.credentials]
      split
      · exact remaining_toChallenge ih e
      · exact remaining_toPseudonym ih e none

/-- However a dialogue goes on, the machine goes on likewise. -/
theorem Remaining.leads {s : Stage} {d rest : Dialogue (FetchResult × Engine)} {turns : List Turn}
    (hs : s.Remaining d) (hafter : d.After turns rest) :
    ∃ t, s.Leads turns t ∧ t.Remaining rest := by
  induction hafter generalizing s with
  | start d => exact ⟨s, .refl s, hs⟩
  | reply reply hafter ih =>
      cases hs with
      | challenge h =>
          obtain ⟨t, hleads, ht⟩ := ih (h reply)
          exact ⟨t, .cons (.challenge reply) hleads, ht⟩
      | pseudonym h =>
          obtain ⟨t, hleads, ht⟩ := ih (h reply)
          exact ⟨t, .cons (.pseudonym reply) hleads, ht⟩
  | answer answer hafter ih =>
      cases hs with
      | sim h =>
          obtain ⟨t, hleads, ht⟩ := ih (h answer)
          exact ⟨t, .cons (.sim answer) hleads, ht⟩

theorem Remaining.request?_eq {s : Stage} {request : Request}
    {next : Reply → Dialogue (FetchResult × Engine)} (h : s.Remaining (.send request next)) :
    s.request? = some request := by
  cases h <;> rfl

theorem Remaining.eq_sim {s : Stage} {said : String}
    {next : SimAnswer → Dialogue (FetchResult × Engine)} (h : s.Remaining (.ask said next)) :
    ∃ e attempts, s = .sim e attempts said := by
  cases h with
  | sim _ => exact ⟨_, _, rfl⟩

theorem Remaining.eq_send {s : Stage} {d : Dialogue (FetchResult × Engine)} {request : Request}
    (h : s.Remaining d) (hs : s.request? = some request) : ∃ next, d = .send request next := by
  cases h with
  | challenge _ =>
      cases hs
      exact ⟨_, rfl⟩
  | pseudonym _ =>
      cases hs
      exact ⟨_, rfl⟩
  | sim _ => cases hs
  | ended _ _ => cases hs

theorem Remaining.eq_done {e : Engine} {result : FetchResult}
    {d : Dialogue (FetchResult × Engine)} (h : (Stage.ended e result).Remaining d) :
    d = .done (result, e) := by
  cases h
  rfl

theorem Remaining.eq_ended {s : Stage} {e : Engine} {result : FetchResult}
    (h : s.Remaining (.done (result, e))) : s = .ended e result := by
  cases h
  rfl

/-- If the exchange breaks off, the engine is left behind as it is. -/
theorem Remaining.of_transport_error {s : Stage} {request : Request}
    {next : Reply → Dialogue (FetchResult × Engine)} (h : s.Remaining (.send request next))
    (broken : TransportError) :
    next (.error broken) = .done (.error (.transport broken), s.engine) := by
  cases h with
  | challenge h =>
      have hlast := h (.error broken)
      generalize next (.error broken) = d at hlast ⊢
      cases hlast
      rfl
  | pseudonym h =>
      have hlast := h (.error broken)
      generalize next (.error broken) = d at hlast ⊢
      cases hlast
      rfl

/-- If the SIM cannot be asked, the engine is left behind as it is. -/
theorem Remaining.of_no_answer {s : Stage} {said : String}
    {next : SimAnswer → Dialogue (FetchResult × Engine)} (h : s.Remaining (.ask said next)) :
    next none = .done (.error (.nonTransient "cannot get challenge response"), s.engine) := by
  cases h with
  | sim h =>
      have hlast := h none
      generalize next none = d at hlast ⊢
      cases hlast
      rfl

/-- What remains to be said determines the engine at that point. -/
theorem Remaining.engine_eq {s t : Stage} {d : Dialogue (FetchResult × Engine)}
    (hs : s.Remaining d) (ht : t.Remaining d) : s.engine = t.engine := by
  cases d with
  | done result =>
      obtain ⟨result, e⟩ := result
      rw [hs.eq_ended, ht.eq_ended]
  | send request next =>
      have heq := (hs.of_transport_error .noRuntime).symm.trans (ht.of_transport_error .noRuntime)
      exact (Prod.mk.inj (Dialogue.done.inj heq)).2
  | ask said next =>
      have heq := hs.of_no_answer.symm.trans ht.of_no_answer
      exact (Prod.mk.inj (Dialogue.done.inj heq)).2

end Stage
end ImsiPseudonym
