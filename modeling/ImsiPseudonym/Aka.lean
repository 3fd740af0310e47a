import ImsiPseudonym.Text.Blank
import ImsiPseudonym.Text.Utf8

/-!
What the SIM answers to a challenge.  The SIM is asked through a program that is given the challenge
and prints the answer; a line that starts with `AUTS:` says that the SIM wants to resynchronise.
-/
namespace ImsiPseudonym

open Text

/-- The answer of the SIM to a challenge. -/
structure AkaResponse where
  response : Option String
  synchronizationFailure : Option String
deriving DecidableEq, Repr

namespace AkaResponse

/-- The SIM was asked and said nothing. -/
def empty : AkaResponse := ⟨none, none⟩

def challenge (response : String) : AkaResponse := ⟨some response, none⟩

/-- The SIM refused the challenge and gave what is needed to resynchronise. -/
def resynchronize (auts : String) : AkaResponse := ⟨none, some auts⟩

/-- The response to send on, if there is one that is not empty. -/
def challengeResponse? (r : AkaResponse) : Option String :=
  nonEmpty? r.response

def synchronizationMark : String := "AUTS:"

/-- The rest of a text after a given beginning. -/
def after? (mark : List Char) (cs : List Char) : Option (List Char) :=
  if mark.isPrefixOf cs then some (cs.drop mark.length) else none

/-- The answer that a text stands for once its outer blanks are taken off. -/
def ofText (printed : String) : AkaResponse :=
  let cs := trimBlanks printed.toList
  match after? synchronizationMark.toList cs with
  | some auts => .resynchronize (String.ofList (trimBlanks auts))
  | none => if cs = [] then .empty else .challenge (String.ofList cs)

end AkaResponse

inductive ProgramRun where
  | notStarted
  | exited (status : Nat) (printed : List UInt8)
deriving DecidableEq, Repr

/-- The answer of the SIM as a program brought it; none if the program could not run or failed. -/
def ProgramRun.akaResponse? : ProgramRun → Option AkaResponse
  | .notStarted => none
  | .exited 0 printed => some (AkaResponse.ofText (Utf8.decode printed))
  | .exited _ _ => none

end ImsiPseudonym
