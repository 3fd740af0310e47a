import ImsiPseudonym.Text.Quoted
import ImsiPseudonym.Decimal.Integer

/-!
The layout of diagnostic text: a value by the name of its type, with its parts in round brackets, in
square brackets, or by field name between braces.
-/
namespace ImsiPseudonym.Text.Diagnostic

/-- A type's name with one value in round brackets. -/
def applied (name value : String) : String :=
  name ++ "(" ++ value ++ ")"

/-- A type's name with named fields between braces. -/
def structured (name : String) (fields : List (String × String)) : String :=
  let parts := fields.map fun (field, value) => field ++ ": " ++ value
  name ++ " \x7b " ++ ", ".intercalate parts ++ " \x7d"

def optional : Option String → String
  | none => "None"
  | some value => applied "Some" value

def listed (values : List String) : String :=
  "[" ++ ", ".intercalate values ++ "]"

/-- Keys and values between braces. -/
def mapped (entries : List (String × String)) : String :=
  let parts := entries.map fun (key, value) => key ++ ": " ++ value
  "\x7b" ++ ", ".intercalate parts ++ "\x7d"

def flag (b : Bool) : String :=
  if b then "true" else "false"

end ImsiPseudonym.Text.Diagnostic
