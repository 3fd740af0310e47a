import ImsiPseudonym.Json.Value

/-!
JSON text of a value: on one line without blanks, or spread over lines with two blanks per level.
Only the quote, the backslash and the control characters are escaped.
-/
namespace ImsiPseudonym.Json

def hexDigit (n : Nat) : Char :=
  Nat.digitChar (n % 16)

def escapedChar (c : Char) : List Char :=
  if c = '"' then ['\\', '"']
  else if c = '\\' then ['\\', '\\']
  else if 0x20 ≤ c.toNat then [c]
  else if c.toNat = 0x8 then ['\\', 'b']
  else if c.toNat = 0x9 then ['\\', 't']
  else if c.toNat = 0xA then ['\\', 'n']
  else if c.toNat = 0xC then ['\\', 'f']
  else if c.toNat = 0xD then ['\\', 'r']
  else ['\\', 'u', '0', '0', hexDigit (c.toNat / 16), hexDigit c.toNat]

/-- A string between quotes. -/
def printString (s : String) : List Char :=
  '"' :: s.toList.flatMap escapedChar ++ ['"']

/-- The pieces with a separator between them. -/
def joined (separator : List Char) : List (List Char) → List Char
  | [] => []
  | [piece] => piece
  | piece :: pieces => piece ++ separator ++ joined separator pieces

mutual

def printCompact : Value → List Char
  | .null => "null".toList
  | .bool true => "true".toList
  | .bool false => "false".toList
  | .number n => n.text.toList
  | .string s => printString s
  | .array items => '[' :: joined [','] (printItems items) ++ [']']
  | .object members => '\x7b' :: joined [','] (printMembers members) ++ ['\x7d']

def printItems : List Value → List (List Char)
  | [] => []
  | item :: items => printCompact item :: printItems items

def printMembers : List (String × Value) → List (List Char)
  | [] => []
  | (key, value) :: members =>
    (printString key ++ ':' :: printCompact value) :: printMembers members

end

/-- A line break and the blanks of a level. -/
def newline (level : Nat) : List Char :=
  '\n' :: List.replicate (2 * level) ' '

mutual

def printIndented (level : Nat) : Value → List Char
  | .array [] => "[]".toList
  | .array (item :: items) =>
    '[' :: newline (level + 1) ++
      joined (',' :: newline (level + 1)) (indentedItems (level + 1) (item :: items)) ++
      newline level ++ [']']
  | .object [] => ['\x7b', '\x7d']
  | .object (entry :: members) =>
    '\x7b' :: newline (level + 1) ++
      joined (',' :: newline (level + 1)) (indentedMembers (level + 1) (entry :: members)) ++
      newline level ++ ['\x7d']
  | value => printCompact value

def indentedItems (level : Nat) : List Value → List (List Char)
  | [] => []
  | item :: items => printIndented level item :: indentedItems level items

def indentedMembers (level : Nat) : List (String × Value) → List (List Char)
  | [] => []
  | (key, value) :: members =>
    (printString key ++ ": ".toList ++ printIndented level value) :: indentedMembers level members

end

/-- The text of a value on one line. -/
def Value.compact (v : Value) : String :=
  String.ofList (printCompact v)

/-- The text of a value over several lines. -/
def Value.indented (v : Value) : String :=
  String.ofList (printIndented 0 v)

end ImsiPseudonym.Json
