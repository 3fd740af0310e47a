import ImsiPseudonym.Dialogue.Basic
import ImsiPseudonym.Subscriber
import Mathlib.Data.List.Induction

/-!
What a request says: whether it asks for a challenge or for the pseudonym, and with which
credentials.  All of it is read off the body, as a server would.
-/
namespace ImsiPseudonym

open Text Message Json

namespace Request

inductive Kind where
  /-- A challenge: the body has one entry. -/
  | challenge
  /-- The pseudonym: the body has two entries. -/
  | pseudonym
deriving DecidableEq, Repr

/-- What a request asks for, by the number of its entries. -/
def kind? (r : Request) : Option Kind :=
  match r.body with
  | .array [.object _] => some .challenge
  | .array [.object _, .object _] => some .pseudonym
  | _ => none

/-- What the first entry of a request holds in a field. -/
def member? (r : Request) (field : String) : Option Value :=
  match r.body with
  | .array (.object entry :: _) => Table.get? entry field
  | _ => none

/-- What a request asks for, with the credentials that it carries. -/
structure Content where
  kind : Option Kind
  token : Option Value
  response : Option Value

def content (r : Request) : Content :=
  ⟨r.kind?, r.member? tokenField, r.member? challengeResponseField⟩

namespace Content

def bare : Content := ⟨some .challenge, none, none⟩

def withToken (token : String) : Content := ⟨some .pseudonym, some (.string token), none⟩

/-- A request for the pseudonym with a challenge response, if there is one, and no token. -/
def withResponse (response : Option String) : Content :=
  ⟨some .pseudonym, none, response.map Value.string⟩

end Content
end Request

namespace Subscriber

/-- The credentials in an authentication entry are those that are not empty. -/
theorem exists_of_authenticationEntry? {s : Subscriber} {token response : Option String} {v : Value}
    (h : s.authenticationEntry? token response = some v) :
    ∃ entry, v = .object entry ∧
      Table.get? entry tokenField = (nonEmpty? token).map Value.string ∧
      Table.get? entry challengeResponseField = (nonEmpty? response).map Value.string := by
  unfold authenticationEntry? at h
  simp only [Option.bind_eq_bind, Option.bind_eq_some_iff, Option.pure_def,
    Option.some.injEq] at h
  obtain ⟨deviceId, -, rfl⟩ := h
  refine ⟨_, rfl, ?_, ?_⟩
  · rw [Table.get?_ofList]
    cases s.networkIdentity? <;> cases nonEmpty? token <;> cases nonEmpty? response <;>
      simp [member?, idField, methodField, tokenField, challengeResponseField]
  · rw [Table.get?_ofList]
    cases s.networkIdentity? <;> cases nonEmpty? token <;> cases nonEmpty? response <;>
      simp [member?, idField, methodField, tokenField, challengeResponseField]

/-- An authentication entry takes a known device, and nothing else. -/
theorem authenticationEntry?_eq_none_iff {s : Subscriber} {token response : Option String} :
    s.authenticationEntry? token response = none ↔ s.deviceId? = none := by
  unfold authenticationEntry?
  cases s.deviceId? <;> simp

theorem challengeRequest?_eq_none_iff {s : Subscriber} :
    s.challengeRequest? = none ↔ s.deviceId? = none := by
  rw [← authenticationEntry?_eq_none_iff]
  cases hentry : s.authenticationEntry? none none <;> simp [challengeRequest?, hentry]

theorem pseudonymRequest?_eq_none_iff {s : Subscriber} {token response : Option String} :
    s.pseudonymRequest? token response = none ↔ s.deviceId? = none := by
  rw [← authenticationEntry?_eq_none_iff]
  cases hentry : s.authenticationEntry? token response <;> simp [pseudonymRequest?, hentry]

theorem exists_pseudonymRequest? {s : Subscriber} (hdevice : s.deviceId? ≠ none)
    (token response : Option String) : ∃ body, s.pseudonymRequest? token response = some body :=
  Option.ne_none_iff_exists'.mp (mt pseudonymRequest?_eq_none_iff.mp hdevice)

theorem deviceId?_ne_none_of_challengeRequest? {s : Subscriber} {body : Value}
    (hbody : s.challengeRequest? = some body) : s.deviceId? ≠ none := by
  intro hnone
  rw [challengeRequest?_eq_none_iff.mpr hnone] at hbody
  cases hbody

theorem deviceId?_ne_none_of_pseudonymRequest? {s : Subscriber} {token response : Option String}
    {body : Value} (hbody : s.pseudonymRequest? token response = some body) :
    s.deviceId? ≠ none := by
  intro hnone
  rw [pseudonymRequest?_eq_none_iff.mpr hnone] at hbody
  cases hbody

theorem content_of_challengeRequest? {s : Subscriber} {body : Value}
    (h : s.challengeRequest? = some body) (server : ServerUrl) :
    (⟨server, body⟩ : Request).content = .bare := by
  simp only [challengeRequest?, Option.bind_eq_bind, Option.bind_eq_some_iff, Option.pure_def,
    Option.some.injEq] at h
  obtain ⟨v, hentry, rfl⟩ := h
  obtain ⟨entry, rfl, htoken, hresponse⟩ := exists_of_authenticationEntry? hentry
  simp [Request.content, Request.kind?, Request.member?, Request.Content.bare, htoken, hresponse]

/-- The body that asks for the pseudonym is read as such, and holds the credentials that are not
empty. -/
theorem content_of_pseudonymRequest? {s : Subscriber} {token response : Option String}
    {body : Value} (h : s.pseudonymRequest? token response = some body) (server : ServerUrl) :
    (⟨server, body⟩ : Request).content =
      ⟨some .pseudonym, (nonEmpty? token).map Value.string,
        (nonEmpty? response).map Value.string⟩ := by
  simp only [pseudonymRequest?, Option.bind_eq_bind, Option.bind_eq_some_iff, Option.pure_def,
    Option.some.injEq] at h
  obtain ⟨v, hentry, rfl⟩ := h
  obtain ⟨entry, rfl, htoken, hresponse⟩ := exists_of_authenticationEntry? hentry
  simp [Request.content, Request.kind?, Request.member?, pseudonymEntry, Value.ofMembers, htoken,
    hresponse]

end Subscriber
end ImsiPseudonym
