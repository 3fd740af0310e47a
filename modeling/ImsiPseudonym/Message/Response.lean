import ImsiPseudonym.Message.Entry
import ImsiPseudonym.Record

/-!
The two answers of the entitlement server: the answer to a request for a challenge, and the answer to
a request for a pseudonym, with the grant that follows from it.
-/
namespace ImsiPseudonym

open Text Message

/-- The answer to a request for a challenge. -/
structure ChallengeResponse where
  authCode : ResponseCode
  challenge : Option String
deriving DecidableEq, Repr

namespace ChallengeResponse

def empty : ChallengeResponse := ⟨.unset, none⟩

/-- Takes the fields of an authentication entry, all of them anew. -/
def withAuthentication (_ : ChallengeResponse) (entry : Json.Object) : ChallengeResponse :=
  { authCode := entryCode entry, challenge := textField? entry challengeField }

def ofBody (body : String) : ChallengeResponse :=
  gather [⟨authenticationId, withAuthentication⟩] empty body

end ChallengeResponse

/-- The answer to a request for a pseudonym. -/
structure PseudonymResponse where
  authCode : ResponseCode
  token : Option String
  pseudonymCode : ResponseCode
  pseudonym : Option String
  refreshHours : Option Int
deriving DecidableEq, Repr

namespace PseudonymResponse

def empty : PseudonymResponse := ⟨.unset, none, .unset, none, none⟩

def withAuthentication (r : PseudonymResponse) (entry : Json.Object) : PseudonymResponse :=
  { r with authCode := entryCode entry, token := textField? entry tokenField }

/-- Takes the fields of a pseudonym entry, all of them anew. -/
def withPseudonym (r : PseudonymResponse) (entry : Json.Object) : PseudonymResponse :=
  { r with
    pseudonymCode := entryCode entry
    pseudonym := textField? entry pseudonymField
    refreshHours := intField? entry refreshIntervalField }

def ofBody (body : String) : PseudonymResponse :=
  gather [⟨authenticationId, withAuthentication⟩, ⟨pseudonymId, withPseudonym⟩] empty body

/-- How long the pseudonym lasts: the hours that the server gives if they are positive, at most the
longest span there is, and the default otherwise. -/
def ttl (r : PseudonymResponse) : Millis :=
  match r.refreshHours with
  | some hours => if 0 < hours then min (hours * hour) Millis.longest else defaultTtl
  | none => defaultTtl

/-- What the answer grants to an IMSI: its pseudonym, if both codes say success and the pseudonym is
usable. -/
def grant? (r : PseudonymResponse) (owner : Imsi) : Option Grant :=
  if r.authCode = .success ∧ r.pseudonymCode = .success then
    match r.pseudonym with
    | none => none
    | some pseudonym =>
      match checkPseudonym pseudonym with
      | .error _ => none
      | .ok () => (Grant.ofTtl pseudonym owner r.ttl).toOption
  else none

/-- The answer in diagnostic text: neither the token nor the pseudonym is shown. -/
def diagnostic (r : PseudonymResponse) : String :=
  Diagnostic.structured "PseudonymResponse" [
    ("auth_response_code", r.authCode.diagnostic),
    ("aka_token", Diagnostic.optional (r.token.map fun _ => quoted "[REDACTED]")),
    ("pseudonym_response_code", r.pseudonymCode.diagnostic),
    ("imsi_pseudonym",
      Diagnostic.optional (r.pseudonym.map fun p => Decimal.natText p.utf8ByteSize)),
    ("refresh_interval_hours", Diagnostic.optional (r.refreshHours.map Decimal.intText))]

end PseudonymResponse
end ImsiPseudonym
