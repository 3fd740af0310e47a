import ImsiPseudonym.Text.Diagnostic

/-!
The codes by which the entitlement server says how a request went.
-/
namespace ImsiPseudonym

open Text

/-- The code of a response entry; any integer can arrive. -/
structure ResponseCode where
  code : Int
deriving DecidableEq, Repr

namespace ResponseCode

/-- No entry carried a code. -/
def unset : ResponseCode := ⟨-1⟩
def success : ResponseCode := ⟨1000⟩
/-- The server asks for a challenge response. -/
def challenge : ResponseCode := ⟨1003⟩
def invalidRequest : ResponseCode := ⟨1004⟩
def authenticationFailed : ResponseCode := ⟨1006⟩
/-- The subscriber has no right to a pseudonym, or there is none to have. -/
def forbidden : ResponseCode := ⟨1007⟩
def serverError : ResponseCode := ⟨1111⟩
def authenticationOngoing : ResponseCode := ⟨1112⟩
/-- The server does not know the method. -/
def unsupported : ResponseCode := ⟨9999⟩

/-- The name of a known code. -/
def name? (c : ResponseCode) : Option String :=
  if c = unset then some "UNSET"
  else if c = success then some "REQUEST_SUCCESSFUL"
  else if c = challenge then some "AKA_CHALLENGE"
  else if c = invalidRequest then some "INVALID_REQUEST"
  else if c = authenticationFailed then some "AKA_AUTH_FAILED"
  else if c = forbidden then some "FORBIDDEN_REQUEST"
  else if c = serverError then some "SERVER_ERROR"
  else if c = authenticationOngoing then some "3GPP_AUTH_ONGOING"
  else if c = unsupported then some "UNSUPPORTED_OPERATION"
  else none

/-- The code in messages: its number, and its name if it has one. -/
def text (c : ResponseCode) : String :=
  match c.name? with
  | some name => s!"{Decimal.intText c.code} ({name})"
  | none => Decimal.intText c.code

def diagnostic (c : ResponseCode) : String :=
  Diagnostic.applied "ResponseCode" (Decimal.intText c.code)

end ResponseCode
end ImsiPseudonym
