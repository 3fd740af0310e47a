import ImsiPseudonym.Decimal.Integer
import ImsiPseudonym.Text.Utf8

/-!
The head of an HTTP response: a line with the status, and header fields up to an empty line.  A line
ends in a line feed, with or without a carriage return before it, and is never continued on the next.
-/
namespace ImsiPseudonym.Http

open Text

def lineFeed : UInt8 := 0x0A
def carriageReturn : UInt8 := 0x0D
def tab : UInt8 := 0x09
def space : UInt8 := 0x20
def colon : UInt8 := 0x3A

/-- Reads a line.  A carriage return stands nowhere but at its end. -/
def readLine? (bytes : List UInt8) : Option (List UInt8 × List UInt8) :=
  match bytes.span (· ≠ lineFeed) with
  | (_, []) => none
  | (line, _ :: rest) =>
    let line := if line.getLast? = some carriageReturn then line.dropLast else line
    if line.contains carriageReturn then none else some (line, rest)

def skipEmptyLines : List UInt8 → List UInt8
  | 0x0A :: rest => skipEmptyLines rest
  | 0x0D :: 0x0A :: rest => skipEmptyLines rest
  | bytes => bytes

def isGap (b : UInt8) : Bool :=
  b == space || b == tab

def isNameByte (b : UInt8) : Bool :=
  let c := Char.ofNat b.toNat
  c.isAlphanum || "!#$%&'*+-.^_`|~".toList.contains c

def isValueByte (b : UInt8) : Bool :=
  b == tab || (space ≤ b && b != 0x7F)

/-- The byte is visible ASCII, a space or a tab. -/
def isPlainByte (b : UInt8) : Bool :=
  isValueByte b && b < 0x80

/-- Bytes without the spaces and tabs around them. -/
def trimGaps (bytes : List UInt8) : List UInt8 :=
  ((bytes.dropWhile isGap).reverse.dropWhile isGap).reverse

def charsOf (bytes : List UInt8) : List Char :=
  bytes.map fun b => Char.ofNat b.toNat

/-- A header field.  Its name is in lower case. -/
structure Field where
  name : String
  value : List UInt8
deriving DecidableEq

def maxNameLength : Nat := 0xFFFF

/-- The field of a line: a name, a colon right behind it, and a value. -/
def Field.ofLine? (line : List UInt8) : Option Field :=
  match line.span (· ≠ colon) with
  | (_, []) => none
  | (name, _ :: value) =>
    if name = [] ∨ maxNameLength < name.length ∨ !name.all isNameByte ∨ !value.all isValueByte then none
    else some ⟨String.ofList ((charsOf name).map Char.toLower), trimGaps value⟩

def Field.text? (f : Field) : Option String :=
  if f.value.all isPlainByte then some (Utf8.decode f.value) else none

/-- Reads fields up to an empty line, at most so many. -/
def readFields : Nat → List UInt8 → Option (List Field × List UInt8)
  | limit, bytes => do
    let (line, rest) ← readLine? bytes
    if line = [] then return ([], rest)
    match limit with
    | 0 => none
    | limit + 1 =>
      let field ← Field.ofLine? line
      let (fields, rest) ← readFields limit rest
      return (field :: fields, rest)

/-- The head of a response.  The version is 1 and a minor number. -/
structure Head where
  minor : Nat
  status : Nat
  fields : List Field
deriving DecidableEq

def versionMark : List UInt8 := "HTTP/1.".toUTF8.toList

/-- The minor version and the status of a status line: the status has three digits, and words may
follow it. -/
def statusLine? (line : List UInt8) : Option (Nat × Nat) :=
  if !versionMark.isPrefixOf line then none
  else
    match charsOf (line.drop versionMark.length) with
    | minor :: ' ' :: a :: b :: c :: words =>
      if (minor ≠ '0' ∧ minor ≠ '1') ∨ !([a, b, c].all Char.isDigit) ∨
          (words ≠ [] ∧ words.head? ≠ some ' ') ∨ !line.all isValueByte then none
      else some (Decimal.ofDigits [minor], Decimal.ofDigits [a, b, c])
    | _ => none

def minStatus : Nat := 100

def maxFields : Nat := 100

def maxHeadLength : Nat := 8192 + 4096 * maxFields

namespace Head

/-- Reads a head.  Empty lines before it do not count. -/
def read? (bytes : List UInt8) : Option (Head × List UInt8) := do
  let (line, rest) ← readLine? (skipEmptyLines bytes)
  let (minor, status) ← statusLine? line
  let (fields, rest) ← readFields maxFields rest
  if status < minStatus ∨ maxHeadLength < bytes.length - rest.length then none
  else return (⟨minor, status, fields⟩, rest)

def values (h : Head) (name : String) : List Field :=
  h.fields.filter fun f => f.name = name

/-- The status of a response after which the connection serves another protocol. -/
def statusSwitching : Nat := 101

def isInterim (h : Head) : Bool :=
  h.status < 200 && h.status ≠ statusSwitching

def readFinalWithin : Nat → List UInt8 → Option (Head × List UInt8)
  | 0, _ => none
  | fuel + 1, bytes => do
    let (head, rest) ← read? bytes
    if head.isInterim then readFinalWithin fuel rest else return (head, rest)

/-- Reads heads up to the first that no other follows.  Every head has at least one byte, so there is
always enough fuel. -/
def readFinal? (bytes : List UInt8) : Option (Head × List UInt8) :=
  readFinalWithin bytes.length bytes

end Head
end ImsiPseudonym.Http
