import ImsiPseudonym.Json.Reader
import ImsiPseudonym.Text.Diagnostic

/-!
How a retrieval fails.  The exchange with the server breaks off, or the server or the SIM reports a
condition that will pass, or one that will not.  Callers see one of three reasons.
-/
namespace ImsiPseudonym

open Text

/-- What a caller needs to know to decide about a retry. -/
inductive FailureReason where
  | connection
  | transient
  | nonTransient
deriving DecidableEq, Repr

namespace FailureReason

def all : List FailureReason := [.connection, .transient, .nonTransient]

/-- The reason as a code. -/
def code : FailureReason → String
  | .connection => "HTTPS_CONNECTION_FAILURE"
  | .transient => "TRANSIENT_FAILURE"
  | .nonTransient => "NON_TRANSIENT_FAILURE"

def text : FailureReason → String
  | .connection => "HTTP connection failure"
  | .transient => "Transient failure"
  | .nonTransient => "Non-transient failure"

def diagnostic : FailureReason → String
  | .connection => "HttpsConnectionFailure"
  | .transient => "TransientFailure"
  | .nonTransient => "NonTransientFailure"

def ofCode? (code : String) : Option FailureReason :=
  all.find? fun reason => reason.code == code

/-- The reason that a JSON text stands for: its code as a string, or as the one key of an object
whose value is null. -/
def ofJsonText? (text : String) : Option FailureReason :=
  let ends (rest : List Char) := Json.skipBlanks rest = []
  match Json.skipBlanks text.toList with
  | '"' :: cs =>
    match Json.readString cs with
    | some (code, rest) => if ends rest then ofCode? code else none
    | none => none
  | '\x7b' :: cs =>
    match Json.readMember (Json.readValue 0) (Json.skipBlanks cs) with
    | some ((code, .null), rest) =>
      match Json.skipBlanks rest with
      | '\x7d' :: rest => if ends rest then ofCode? code else none
      | _ => none
    | _ => none
  | _ => none

theorem ofCode?_code (reason : FailureReason) : ofCode? reason.code = some reason := by
  cases reason <;> rfl

end FailureReason

/-- Why a single exchange with the server broke off. -/
inductive TransportError where
  | connect (reason : String)
  | timeout (elapsed : Nat)
  | httpStatus (status : Nat) (retryAfter : Option String)
  | malformedResponse (reason : String)
  | encoding (reason : String)
  | noRuntime
deriving DecidableEq, Repr

namespace TransportError

def message : TransportError → String
  | .connect reason => "connection failed: " ++ reason
  | .timeout elapsed => s!"request timed out after {Decimal.natText elapsed}ms"
  | .httpStatus status _ => "server returned HTTP " ++ Decimal.natText status
  | .malformedResponse reason => "malformed response: " ++ reason
  | .encoding reason => "failed to encode request body: " ++ reason
  | .noRuntime => "no async runtime available for HTTP request"

def kind : TransportError → String
  | .connect _ => "Connect"
  | .timeout _ => "Timeout"
  | .httpStatus .. => "HttpStatus"
  | .malformedResponse _ => "MalformedResponse"
  | .encoding _ => "Encoding"
  | .noRuntime => "NoRuntime"

def diagnostic (e : TransportError) : String :=
  match e with
  | .connect reason => Diagnostic.structured e.kind [("reason", quoted reason)]
  | .timeout elapsed => Diagnostic.structured e.kind [("elapsed_ms", Decimal.natText elapsed)]
  | .httpStatus status retryAfter =>
    Diagnostic.structured e.kind [
      ("status", Decimal.natText status),
      ("retry_after", Diagnostic.optional (retryAfter.map quoted))]
  | .malformedResponse reason => Diagnostic.structured e.kind [("reason", quoted reason)]
  | .encoding reason => Diagnostic.structured e.kind [("reason", quoted reason)]
  | .noRuntime => e.kind

end TransportError

/-- Why a retrieval failed. -/
inductive EntitlementError where
  | transport (e : TransportError)
  | transient (cause : String)
  | nonTransient (cause : String)
deriving DecidableEq, Repr

namespace EntitlementError

def message : EntitlementError → String
  | .transport e => "HTTPS connection failure: " ++ e.message
  | .transient cause => "transient failure: " ++ cause
  | .nonTransient cause => "non-transient failure: " ++ cause

def kind : EntitlementError → String
  | .transport _ => "Transport"
  | .transient _ => "Transient"
  | .nonTransient _ => "NonTransient"

/-- The reason that callers see. -/
def reason : EntitlementError → FailureReason
  | .transport _ => .connection
  | .transient _ => .transient
  | .nonTransient _ => .nonTransient

/-- The broken exchange behind the failure. -/
def transport? : EntitlementError → Option TransportError
  | .transport e => some e
  | _ => none

def diagnostic (e : EntitlementError) : String :=
  match e with
  | .transport t => Diagnostic.applied e.kind t.diagnostic
  | .transient cause => Diagnostic.structured e.kind [("message", quoted cause)]
  | .nonTransient cause => Diagnostic.structured e.kind [("message", quoted cause)]

end EntitlementError
end ImsiPseudonym
