import ImsiPseudonym.Proofs.Engine.Content
import ImsiPseudonym.Proofs.Engine.Stage

/-!
What every turn of a fetch preserves.  Main statements: `Leads.valid`, that a fetch never runs out
of attempts and asks for a challenge only without a token; `Leads.sound`, that a cached token is
never empty and only kept for a known device; `Leads.engine_eq`, that only the token changes.
-/
namespace ImsiPseudonym

open Text

/-- A cached token is not empty, and the device is known as long as there is one. -/
def Engine.Sound (e : Engine) : Prop :=
  ∀ token, e.token = some token → token ≠ "" ∧ e.subscriber.deviceId? ≠ none

theorem Engine.sound_of_token_eq_none {e : Engine} (h : e.token = none) : e.Sound := by
  intro token htoken
  rw [h] at htoken
  cases htoken

theorem Engine.Sound.token_ne_empty {e : Engine} (h : e.Sound) : e.token ≠ some "" :=
  fun htoken => (h "" htoken).1 rfl

namespace Stage

theorem toChallenge_cases (e : Engine) (attempts : Nat) :
    (e.subscriber.deviceId? = none ∧
      toChallenge e attempts = .ended e (.error Engine.deviceUnknown)) ∨
    ∃ body, e.subscriber.challengeRequest? = some body ∧
      toChallenge e attempts = .challenge e attempts body := by
  unfold toChallenge
  cases hbody : e.subscriber.challengeRequest? with
  | none => exact Or.inl ⟨Subscriber.challengeRequest?_eq_none_iff.mp hbody, rfl⟩
  | some body => exact Or.inr ⟨body, rfl, rfl⟩

theorem toPseudonym_cases (e : Engine) (attempts : Nat) (response : Option String) :
    (e.subscriber.deviceId? = none ∧
      toPseudonym e attempts response = .ended e (.error Engine.deviceUnknown)) ∨
    ∃ body, e.subscriber.pseudonymRequest? e.token response = some body ∧
      toPseudonym e attempts response = .pseudonym e attempts response body := by
  unfold toPseudonym
  cases hbody : e.subscriber.pseudonymRequest? e.token response with
  | none => exact Or.inl ⟨Subscriber.pseudonymRequest?_eq_none_iff.mp hbody, rfl⟩
  | some body => exact Or.inr ⟨body, rfl, rfl⟩

/-- A fetch ends before its first turn exactly if the device is unknown. -/
theorem begin_ended_or_sends (e : Engine) (attempts : Nat) :
    (e.subscriber.deviceId? = none ∧
      begin (attempts + 1) e = .ended e (.error Engine.deviceUnknown)) ∨
    (e.subscriber.deviceId? ≠ none ∧
      ∃ request, (begin (attempts + 1) e).request? = some request) := by
  rcases begin_cases e attempts with ⟨-, hbegin⟩ | ⟨token, -, hbegin⟩
  · rw [hbegin]
    rcases toChallenge_cases e attempts with ⟨hnone, h⟩ | ⟨body, hbody, h⟩
    · exact Or.inl ⟨hnone, h⟩
    · rw [h]
      exact Or.inr ⟨Subscriber.deviceId?_ne_none_of_challengeRequest? hbody, _, rfl⟩
  · rw [hbegin]
    rcases toPseudonym_cases e attempts none with ⟨hnone, h⟩ | ⟨body, hbody, h⟩
    · exact Or.inl ⟨hnone, h⟩
    · rw [h]
      exact Or.inr ⟨Subscriber.deviceId?_ne_none_of_pseudonymRequest? hbody, _, rfl⟩

theorem transient_ne_exhausted {cause : String} (h : cause.toList.head? ≠ some 'A') :
    EntitlementError.transient cause ≠ exhausted := by
  intro heq
  cases heq
  exact h rfl

theorem challengeRefused_ne_exhausted (code : ResponseCode) :
    challengeRefused code ≠ exhausted := by
  unfold challengeRefused
  split
  · apply transient_ne_exhausted
    simp [toString]
  · exact nofun

theorem pseudonymRefused_ne_exhausted (code : ResponseCode) :
    pseudonymRefused code ≠ exhausted := by
  unfold pseudonymRefused
  split
  · apply transient_ne_exhausted
    simp [toString]
  · exact nofun

theorem authenticationRefused_ne_exhausted (code : ResponseCode) :
    authenticationRefused code ≠ exhausted := by
  unfold authenticationRefused
  split
  · exact nofun
  · split
    · exact nofun
    · split
      · exact transient_ne_exhausted (by decide)
      · exact nofun

theorem refused_ne_exhausted {code : ResponseCode} {sentToken : Bool} {failure : EntitlementError}
    (h : Verdict.ofCode code sentToken = .refused failure) : failure ≠ exhausted := by
  unfold Verdict.ofCode at h
  split at h
  · cases h
  · split at h
    · split at h
      · cases h
      · cases h
        exact transient_ne_exhausted (by decide)
    · cases h
      exact authenticationRefused_ne_exhausted code

theorem granted_ne_exhausted (e : Engine) (answer : PseudonymResponse) :
    e.granted answer ≠ .error exhausted := by
  unfold Engine.granted
  split
  · exact nofun
  · intro h
    exact pseudonymRefused_ne_exhausted answer.pseudonymCode (Except.error.inj h)

/-- A stage as a fetch can come to it: it holds the body that follows from the engine, it asks for a
challenge only without a token, and with a token an attempt is left and there is no challenge
response. -/
def Valid : Stage → Prop
  | .challenge e _ body => e.token = none ∧ e.subscriber.challengeRequest? = some body
  | .sim e _ _ => e.token = none
  | .pseudonym e attempts response body =>
      e.subscriber.pseudonymRequest? e.token response = some body ∧ response ≠ some "" ∧
        (e.token ≠ none → response = none ∧ attempts ≠ 0)
  | .ended _ result => result ≠ .error exhausted

theorem toChallenge_valid {e : Engine} (htoken : e.token = none) (attempts : Nat) :
    (toChallenge e attempts).Valid := by
  rcases toChallenge_cases e attempts with ⟨-, h⟩ | ⟨body, hbody, h⟩
  · rw [h]
    exact nofun
  · rw [h]
    exact ⟨htoken, hbody⟩

theorem toPseudonym_valid {e : Engine} {attempts : Nat} {response : Option String}
    (hresponse : response ≠ some "") (htoken : e.token ≠ none → response = none ∧ attempts ≠ 0) :
    (toPseudonym e attempts response).Valid := by
  rcases toPseudonym_cases e attempts response with ⟨-, h⟩ | ⟨body, hbody, h⟩
  · rw [h]
    exact nofun
  · rw [h]
    exact ⟨hbody, hresponse, htoken⟩

theorem begin_valid {e : Engine} {attempts : Nat} (h : attempts ≠ 0)
    (htoken : e.token ≠ none → attempts ≠ 1) : (begin attempts e).Valid := by
  cases attempts with
  | zero => exact absurd rfl h
  | succ attempts =>
      rcases begin_cases e attempts with ⟨hnone, hbegin⟩ | ⟨token, hsome, hbegin⟩
      · rw [hbegin]
        exact toChallenge_valid hnone attempts
      · rw [hbegin]
        refine toPseudonym_valid (by simp) fun hne => ⟨rfl, ?_⟩
        have := htoken hne
        omega

theorem challengeReplied_valid {e : Engine} (htoken : e.token = none) (attempts : Nat)
    (reply : Reply) : (challengeReplied e attempts reply).Valid := by
  rcases challengeReplied_cases e attempts reply with
    ⟨broken, -, h⟩ | ⟨body, -, ⟨-, h⟩ | ⟨-, ⟨-, h⟩ | ⟨said, -, h⟩⟩⟩
  · rw [h]
    exact nofun
  · rw [h]
    exact fun hresult => challengeRefused_ne_exhausted _ (Except.error.inj hresult)
  · rw [h]
    exact toPseudonym_valid (by simp) (absurd htoken)
  · rw [h]
    exact htoken

theorem simAnswered_valid {e : Engine} (htoken : e.token = none) (attempts : Nat)
    (answer : SimAnswer) : (simAnswered e attempts answer).Valid := by
  rcases simAnswered_cases e attempts answer with
    ⟨-, h⟩ | ⟨said, -, ⟨-, h⟩ | ⟨response, hresponse, h⟩⟩
  · rw [h]
    exact nofun
  · rw [h]
    exact fun hresult => transient_ne_exhausted (by decide) (Except.error.inj hresult)
  · rw [h]
    have hne : response ≠ "" := (nonEmpty?_eq_some_iff.mp hresponse).2
    exact toPseudonym_valid (fun hempty => hne (Option.some.inj hempty)) (absurd htoken)

theorem pseudonymReplied_valid {e : Engine} {attempts : Nat} {response : Option String}
    (hattempts : e.token ≠ none → attempts ≠ 0) (reply : Reply) :
    (pseudonymReplied e attempts response reply).Valid := by
  rcases pseudonymReplied_cases e attempts response reply with
    ⟨broken, -, h⟩ | ⟨body, -, ⟨failure, hverdict, h⟩ | ⟨-, htoken, h⟩ | ⟨-, h⟩⟩
  · rw [h]
    exact nofun
  · rw [h]
    exact fun hresult => refused_ne_exhausted hverdict (Except.error.inj hresult)
  · rw [h]
    exact begin_valid (hattempts htoken) (absurd rfl)
  · rw [h]
    exact granted_ne_exhausted e _

theorem Step.valid {s t : Stage} {turn : Turn} (h : s.Step turn t) (hs : s.Valid) : t.Valid := by
  cases h with
  | challenge reply => exact challengeReplied_valid hs.1 _ reply
  | sim answer => exact simAnswered_valid hs _ answer
  | pseudonym reply =>
      obtain ⟨-, -, htoken⟩ := hs
      exact pseudonymReplied_valid (fun h => (htoken h).2) reply

theorem Leads.valid {s t : Stage} {turns : List Turn} (h : s.Leads turns t) (hs : s.Valid) :
    t.Valid := by
  induction h with
  | refl s => exact hs
  | cons hstep _ ih => exact ih (hstep.valid hs)

/-- With two attempts a fetch starts at a valid stage, token or not. -/
theorem begin_maxAttempts_valid (e : Engine) : (begin Engine.maxAttempts e).Valid :=
  begin_valid (by decide) (fun _ => by decide)

theorem toChallenge_engine (e : Engine) (attempts : Nat) : (toChallenge e attempts).engine = e := by
  rcases toChallenge_cases e attempts with ⟨-, h⟩ | ⟨body, -, h⟩ <;> rw [h] <;> rfl

theorem toPseudonym_engine (e : Engine) (attempts : Nat) (response : Option String) :
    (toPseudonym e attempts response).engine = e := by
  rcases toPseudonym_cases e attempts response with ⟨-, h⟩ | ⟨body, -, h⟩ <;> rw [h] <;> rfl

theorem begin_engine (attempts : Nat) (e : Engine) : (begin attempts e).engine = e := by
  cases attempts with
  | zero => rfl
  | succ attempts =>
      rcases begin_cases e attempts with ⟨-, h⟩ | ⟨token, -, h⟩
      · rw [h, toChallenge_engine]
      · rw [h, toPseudonym_engine]

theorem challengeReplied_engine (e : Engine) (attempts : Nat) (reply : Reply) :
    (challengeReplied e attempts reply).engine = e := by
  rcases challengeReplied_cases e attempts reply with
    ⟨broken, -, h⟩ | ⟨body, -, ⟨-, h⟩ | ⟨-, ⟨-, h⟩ | ⟨said, -, h⟩⟩⟩
  · rw [h, engine]
  · rw [h, engine]
  · rw [h, toPseudonym_engine]
  · rw [h, engine]

theorem simAnswered_engine (e : Engine) (attempts : Nat) (answer : SimAnswer) :
    (simAnswered e attempts answer).engine = e := by
  rcases simAnswered_cases e attempts answer with ⟨-, h⟩ | ⟨said, -, ⟨-, h⟩ | ⟨response, -, h⟩⟩
  · rw [h, engine]
  · rw [h, engine]
  · rw [h, toPseudonym_engine]

theorem pseudonymReplied_engine (e : Engine) (attempts : Nat) (response : Option String)
    (reply : Reply) :
    ∃ token, (pseudonymReplied e attempts response reply).engine = { e with token } := by
  rcases pseudonymReplied_cases e attempts response reply with
    ⟨broken, -, h⟩ | ⟨body, -, ⟨failure, -, h⟩ | ⟨-, -, h⟩ | ⟨-, h⟩⟩
  · rw [h]
    exact ⟨e.token, rfl⟩
  · rw [h]
    exact ⟨e.token, rfl⟩
  · rw [h, begin_engine]
    exact ⟨none, rfl⟩
  · rw [h, engine, Engine.keepToken]
    split
    · exact ⟨_, rfl⟩
    · exact ⟨e.token, rfl⟩

theorem Step.engine_eq {s t : Stage} {turn : Turn} (h : s.Step turn t) :
    ∃ token, t.engine = { s.engine with token } := by
  cases h with
  | @challenge e _ _ reply => exact ⟨e.token, challengeReplied_engine e _ reply⟩
  | @sim e _ _ answer => exact ⟨e.token, simAnswered_engine e _ answer⟩
  | pseudonym reply => exact pseudonymReplied_engine _ _ _ reply

theorem Leads.engine_eq {s t : Stage} {turns : List Turn} (h : s.Leads turns t) :
    ∃ token, t.engine = { s.engine with token } := by
  induction h with
  | refl s => exact ⟨s.engine.token, rfl⟩
  | cons hstep _ ih =>
      obtain ⟨_, hfirst⟩ := hstep.engine_eq
      obtain ⟨token, hrest⟩ := ih
      exact ⟨token, by rw [hrest, hfirst]⟩

theorem keepToken_sound {e : Engine} (he : e.Sound) (hdevice : e.subscriber.deviceId? ≠ none)
    (answer : PseudonymResponse) (response : Option String) :
    (e.keepToken answer response).Sound := by
  unfold Engine.keepToken
  split
  · rename_i token _ hanswer _
    intro kept hkept
    cases hkept
    exact ⟨(nonEmpty?_eq_some_iff.mp hanswer).2, hdevice⟩
  · exact he

theorem begin_sound {e : Engine} (attempts : Nat) (he : e.Sound) :
    (begin attempts e).engine.Sound := by
  rw [begin_engine]
  exact he

theorem pseudonymReplied_sound {e : Engine} (he : e.Sound)
    (hdevice : e.subscriber.deviceId? ≠ none) (attempts : Nat) (response : Option String)
    (reply : Reply) : (pseudonymReplied e attempts response reply).engine.Sound := by
  rcases pseudonymReplied_cases e attempts response reply with
    ⟨broken, -, h⟩ | ⟨body, -, ⟨failure, -, h⟩ | ⟨-, -, h⟩ | ⟨-, h⟩⟩
  · rw [h]
    exact he
  · rw [h]
    exact he
  · rw [h]
    exact begin_sound attempts (Engine.sound_of_token_eq_none rfl)
  · rw [h]
    exact keepToken_sound he hdevice _ _

theorem Step.sound {s t : Stage} {turn : Turn} (h : s.Step turn t) (hvalid : s.Valid)
    (hs : s.engine.Sound) : t.engine.Sound := by
  cases h with
  | challenge reply =>
      rw [challengeReplied_engine]
      exact hs
  | sim answer =>
      rw [simAnswered_engine]
      exact hs
  | pseudonym reply =>
      have hdevice := Subscriber.deviceId?_ne_none_of_pseudonymRequest? hvalid.1
      exact pseudonymReplied_sound hs hdevice _ _ reply

theorem Leads.sound {s t : Stage} {turns : List Turn} (h : s.Leads turns t) (hvalid : s.Valid)
    (hs : s.engine.Sound) : t.engine.Sound := by
  induction h with
  | refl s => exact hs
  | cons hstep _ ih => exact ih (hstep.valid hvalid) (hstep.sound hvalid hs)

theorem challenge_content {e : Engine} {attempts : Nat} {body : Json.Value}
    (hvalid : (Stage.challenge e attempts body).Valid) :
    (⟨e.server, body⟩ : Request).content = .bare :=
  Subscriber.content_of_challengeRequest? hvalid.2 e.server

/-- A request for the pseudonym carries the token as it is, and the challenge response as it is. -/
theorem pseudonym_content {e : Engine} {attempts : Nat} {response : Option String}
    {body : Json.Value} (hvalid : (Stage.pseudonym e attempts response body).Valid)
    (hsound : e.Sound) :
    (⟨e.server, body⟩ : Request).content =
      ⟨some .pseudonym, e.token.map .string, response.map .string⟩ := by
  obtain ⟨hbody, hresponse, -⟩ := hvalid
  have hcontent := Subscriber.content_of_pseudonymRequest? hbody e.server
  rw [nonEmpty?_eq_self hsound.token_ne_empty, nonEmpty?_eq_self hresponse] at hcontent
  exact hcontent

end Stage
end ImsiPseudonym
