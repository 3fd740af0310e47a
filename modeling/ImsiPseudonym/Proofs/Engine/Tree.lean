import ImsiPseudonym.Engine

/-!
A fetch written out: which request or challenge comes first, and what follows each reply.
-/
namespace ImsiPseudonym

open Text

theorem Verdict.ofCode_eq_accepted_iff {code : ResponseCode} {sentToken : Bool} :
    Verdict.ofCode code sentToken = .accepted ↔ code = .success := by
  unfold Verdict.ofCode
  by_cases hsuccess : code = .success
  · simp [hsuccess]
  · simp only [hsuccess, ↓reduceIte, iff_false]
    split
    · split <;> simp
    · simp

/-- A server can reject only a token that it was sent. -/
theorem Verdict.ofCode_eq_tokenRejected_iff {code : ResponseCode} {sentToken : Bool} :
    Verdict.ofCode code sentToken = .tokenRejected ↔ code = .challenge ∧ sentToken = true := by
  have hne : ResponseCode.challenge ≠ .success := by decide
  unfold Verdict.ofCode
  by_cases hsuccess : code = .success
  · simp [hsuccess, hne.symm]
  · by_cases hchallenge : code = .challenge <;> cases sentToken <;>
      simp [hsuccess, hchallenge, hne]

namespace Engine

/-- What a fetch makes of the answer of the SIM. -/
def responseOf : SimAnswer → Except EntitlementError (Option String)
  | none => .error (.nonTransient "cannot get challenge response")
  | some said =>
      match said.challengeResponse? with
      | none => .error (.transient "challenge message not valid")
      | some response => .ok (some response)

/-- What follows the reply to a request for a challenge, up to the challenge response. -/
def authenticateFrom : Reply → Dialogue (Except EntitlementError (Option String))
  | .error broken => .done (.error (.transport broken))
  | .ok body =>
      let answer := ChallengeResponse.ofBody body
      if answer.authCode = .challenge then
        match nonEmpty? answer.challenge with
        | none => .done (.ok none)
        | some said => .ask said fun answer => .done (responseOf answer)
      else .done (.error (challengeRefused answer.authCode))

def concludeFrom (e : Engine) (attempts : Nat) (response : Option String) :
    Reply → Dialogue (FetchResult × Engine)
  | .error broken => .done (.error (.transport broken), e)
  | .ok body =>
      let answer := PseudonymResponse.ofBody body
      match Verdict.ofCode answer.authCode e.token.isSome with
      | .refused failure => .done (.error failure, e)
      | .tokenRejected => fetchWithin attempts e.clearToken
      | .accepted => .done (e.granted answer, e.keepToken answer response)

/-- What follows once the credentials of an attempt are known. -/
def conclude (e : Engine) (attempts : Nat) :
    Except EntitlementError (Option String) → Dialogue (FetchResult × Engine)
  | .error failure => .done (.error failure, e)
  | .ok response =>
      match e.subscriber.pseudonymRequest? e.token response with
      | none => .done (.error deviceUnknown, e)
      | some body => .send ⟨e.server, body⟩ (e.concludeFrom attempts response)

theorem authenticate_run (e : Engine) {body : Json.Value}
    (hbody : e.subscriber.challengeRequest? = some body) :
    e.authenticate.run = .send ⟨e.server, body⟩ authenticateFrom := by
  simp only [authenticate, hbody]
  refine congrArg (Dialogue.send _) (funext fun reply => ?_)
  cases reply with
  | error broken => rfl
  | ok text =>
      change (respond (.ofBody text)).run = authenticateFrom (.ok text)
      by_cases hcode : (ChallengeResponse.ofBody text).authCode = .challenge
      · simp only [authenticateFrom, respond, hcode, ne_eq, not_true_eq_false, ↓reduceIte]
        cases nonEmpty? (ChallengeResponse.ofBody text).challenge with
        | none => rfl
        | some said =>
            refine congrArg (Dialogue.ask said) (funext fun answer => ?_)
            cases answer with
            | none => rfl
            | some answer =>
                change ExceptT.run (match answer.challengeResponse? with
                  | none => throw (.transient "challenge message not valid")
                  | some response => pure (some response) : Attempt (Option String)) = _
                simp only [responseOf]
                cases answer.challengeResponse? <;> rfl
      · simp only [authenticateFrom, respond, hcode, ne_eq, not_false_eq_true, ↓reduceIte]
        rfl

theorem fetchWithin_succ (attempts : Nat) (e : Engine) :
    fetchWithin (attempts + 1) e = e.credentials.run >>= e.conclude attempts := by
  rw [fetchWithin]
  refine congrArg (Bind.bind e.credentials.run) (funext fun credentials => ?_)
  cases credentials with
  | error failure => rfl
  | ok response =>
      simp only [conclude, requestPseudonym]
      cases e.subscriber.pseudonymRequest? e.token response with
      | none => rfl
      | some body =>
          refine congrArg (Dialogue.send _) (funext fun reply => ?_)
          cases reply <;> rfl

/-- Without a token any reply to a request for the pseudonym ends the fetch. -/
theorem concludeFrom_of_token_eq_none {e : Engine} (htoken : e.token = none)
    (response : Option String) (reply : Reply) :
    ∃ result, ∀ attempts, e.concludeFrom attempts response reply = .done result := by
  cases reply with
  | error broken => exact ⟨_, fun _ => rfl⟩
  | ok body =>
      simp only [concludeFrom]
      cases hverdict :
          Verdict.ofCode (PseudonymResponse.ofBody body).authCode e.token.isSome with
      | refused failure => exact ⟨_, fun _ => rfl⟩
      | tokenRejected =>
          have hsent := (Verdict.ofCode_eq_tokenRejected_iff.mp hverdict).2
          rw [htoken] at hsent
          cases hsent
      | accepted => exact ⟨_, fun _ => rfl⟩

/-- Without a token no attempt is ever repeated, so all that counts is that there is one. -/
theorem fetchWithin_of_token_eq_none {e : Engine} (htoken : e.token = none) (m n : Nat) :
    fetchWithin (m + 1) e = fetchWithin (n + 1) e := by
  rw [fetchWithin_succ, fetchWithin_succ]
  refine congrArg (Bind.bind e.credentials.run) (funext fun credentials => ?_)
  cases credentials with
  | error failure => rfl
  | ok response =>
      simp only [conclude]
      cases e.subscriber.pseudonymRequest? e.token response with
      | none => rfl
      | some body =>
          refine congrArg (Dialogue.send _) (funext fun reply => ?_)
          obtain ⟨result, hdone⟩ := concludeFrom_of_token_eq_none htoken response reply
          rw [hdone m, hdone n]

/-- With a token a fetch starts by asking for the pseudonym. -/
theorem fetch_of_token {e : Engine} {token : String} (htoken : e.token = some token)
    {body : Json.Value} (hbody : e.subscriber.pseudonymRequest? e.token none = some body) :
    e.fetch = .send ⟨e.server, body⟩ (e.concludeFrom 1 none) := by
  have hcredentials : e.credentials.run = .done (.ok none) := by
    rw [credentials, htoken]
    rfl
  rw [fetch, maxAttempts, fetchWithin_succ, hcredentials, Dialogue.done_bind]
  simp only [conclude, hbody]

end Engine
end ImsiPseudonym
