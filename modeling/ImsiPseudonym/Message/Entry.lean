import ImsiPseudonym.Json.Reader
import ImsiPseudonym.Text.Blank
import ImsiPseudonym.Message.ResponseCode

/-!
The entries of a message.  A message body is a JSON array; each of its objects is an entry, which
says by its message id what it is about.  Entries are taken in order, each by the first handler of
its id; everything else in the array is passed over.
-/
namespace ImsiPseudonym.Message

open Json

def idField : String := "message-id"
def methodField : String := "method"
def responseCodeField : String := "response-code"
def challengeField : String := "aka-challenge"
def challengeResponseField : String := "aka-challenge-rsp"
def tokenField : String := "aka-token"
def pseudonymField : String := "imsi-pseudonym"
def refreshIntervalField : String := "refresh-interval"

/-- The id of entries on authentication. -/
def authenticationId : Int := 1
/-- The id of entries on the pseudonym. -/
def pseudonymId : Int := 2
/-- The id of an entry without a usable one. -/
def unsetId : Int := -1

/-- A value as an integer: the whole part of a number, brought into the range of 64 bits, or the
integer that a text spells between blanks, if it is in that range. -/
def asInt? : Value → Option Int
  | .number n => some n.toInt64
  | .string s => (Decimal.readInt? (Text.trimBlanks s.toList)).bind fitsInt64?
  | _ => none

/-- A value as text: a string itself, and a number or a truth value as it is written. -/
def asText? : Value → Option String
  | .string s => some s
  | .number n => some n.text
  | .bool b => some (Text.Diagnostic.flag b)
  | _ => none

def intField? (entry : Object) (field : String) : Option Int :=
  (Table.get? entry field).bind asInt?

def textField? (entry : Object) (field : String) : Option String :=
  (Table.get? entry field).bind asText?

def entryId (entry : Object) : Int :=
  (intField? entry idField).getD unsetId

def entryCode (entry : Object) : ResponseCode :=
  ⟨(intField? entry responseCodeField).getD ResponseCode.unset.code⟩

/-- What is done with the entries of one message id: each updates what was gathered before it. -/
structure Handler (α : Type) where
  id : Int
  extract : α → Object → α

/-- Passes one element of the array to the first handler of its id. -/
def dispatch {α : Type} (handlers : List (Handler α)) (gathered : α) : Value → α
  | .object entry =>
    match handlers.find? fun handler => handler.id == entryId entry with
    | some handler => handler.extract gathered entry
    | none => gathered
  | _ => gathered

/-- Passes the elements of an array to their handlers, in order. -/
def walk {α : Type} (handlers : List (Handler α)) (gathered : α) (items : List Value) : α :=
  items.foldl (dispatch handlers) gathered

/-- The elements of a body that is a JSON array. -/
def items? (body : String) : Option (List Value) :=
  match read? body with
  | some (.array items) => some items
  | _ => none

/-- What the handlers gather from a body; nothing from one that is no JSON array. -/
def gather {α : Type} (handlers : List (Handler α)) (start : α) (body : String) : α :=
  match items? body with
  | some items => walk handlers start items
  | none => start

theorem walk_append {α : Type} (handlers : List (Handler α)) (gathered : α)
    (xs ys : List Value) :
    walk handlers gathered (xs ++ ys) = walk handlers (walk handlers gathered xs) ys := by
  simp [walk]

end ImsiPseudonym.Message
