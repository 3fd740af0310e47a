import ImsiPseudonym.Json.Value

/-!
Reading JSON text, strictly: no blanks but the four of the format, no control character inside a
string, no lone surrogate, no leading zero, nothing after the value, and at most a fixed depth of
brackets.  Text that breaks a rule has no value at all.
-/
namespace ImsiPseudonym.Json

/-- The format's own blanks. -/
def isJsonBlank (c : Char) : Bool :=
  c == ' ' || c == '\t' || c == '\n' || c == '\r'

def skipBlanks (cs : List Char) : List Char :=
  cs.dropWhile isJsonBlank

def hexValue? (c : Char) : Option Nat :=
  if '0' ≤ c ∧ c ≤ '9' then some (c.toNat - '0'.toNat)
  else if 'a' ≤ c ∧ c ≤ 'f' then some (c.toNat - 'a'.toNat + 10)
  else if 'A' ≤ c ∧ c ≤ 'F' then some (c.toNat - 'A'.toNat + 10)
  else none

/-- A piece of a string: a character, or a 16-bit unit given by number. -/
inductive Piece where
  | char (c : Char)
  | unit (u : Nat)
deriving DecidableEq, Repr

def shortEscape? (c : Char) : Option Char :=
  match c with
  | '"' => some '"'
  | '\\' => some '\\'
  | '/' => some '/'
  | 'b' => some '\x08'
  | 'f' => some '\x0c'
  | 'n' => some '\n'
  | 'r' => some '\r'
  | 't' => some '\t'
  | _ => none

/-- The 16-bit unit behind four hexadecimal digits. -/
def unit? (a b c d : Char) : Option Nat := do
  return (((← hexValue? a) * 16 + (← hexValue? b)) * 16 + (← hexValue? c)) * 16 + (← hexValue? d)

/-- The pieces up to the closing quote, and what follows it. -/
def readPieces : List Char → Option (List Piece × List Char)
  | [] => none
  | '"' :: rest => some ([], rest)
  | '\\' :: 'u' :: a :: b :: c :: d :: rest => do
    let u ← unit? a b c d
    let (pieces, rest) ← readPieces rest
    return (.unit u :: pieces, rest)
  | '\\' :: c :: rest => do
    let c ← shortEscape? c
    let (pieces, rest) ← readPieces rest
    return (.char c :: pieces, rest)
  | c :: rest =>
    if c.toNat < 0x20 ∨ c = '\\' then none
    else do
      let (pieces, rest) ← readPieces rest
      return (.char c :: pieces, rest)

def isHighHalf (u : Nat) : Bool := 0xD800 ≤ u && u < 0xDC00

def isLowHalf (u : Nat) : Bool := 0xDC00 ≤ u && u < 0xE000

/-- The characters of the pieces; each first half needs its second half right after it. -/
def joinPieces : List Piece → Option (List Char)
  | [] => some []
  | .char c :: pieces => (joinPieces pieces).map (c :: ·)
  | [.unit u] => if isHighHalf u || isLowHalf u then none else some [Char.ofNat u]
  | .unit u :: .unit v :: pieces =>
    if isHighHalf u then
      if isLowHalf v then
        (joinPieces pieces).map (Char.ofNat (0x10000 + (u - 0xD800) * 0x400 + (v - 0xDC00)) :: ·)
      else none
    else if isLowHalf u then none
    else (joinPieces (.unit v :: pieces)).map (Char.ofNat u :: ·)
  | .unit u :: .char c :: pieces =>
    if isHighHalf u || isLowHalf u then none
    else (joinPieces (.char c :: pieces)).map (Char.ofNat u :: ·)

def readString (cs : List Char) : Option (String × List Char) := do
  let (pieces, rest) ← readPieces cs
  let chars ← joinPieces pieces
  return (String.ofList chars, rest)

def maxUInt64 : Nat := 0xFFFFFFFFFFFFFFFF

/-- Continues a number by digits as long as it fits 64 bits; the digits that are left. -/
def absorb (n : Nat) : List Char → Nat × List Char
  | [] => (n, [])
  | c :: cs =>
    let next := n * 10 + Decimal.digitValue c
    if maxUInt64 < next then (n, c :: cs) else absorb next cs

/-- A number literal in its parts. -/
structure Literal where
  negative : Bool
  whole : List Char
  fraction : Option (List Char)
  exponent : Option (Bool × List Char)

def Literal.power (l : Literal) : Int :=
  match l.exponent with
  | none => 0
  | some (true, cs) => -(Decimal.ofDigits cs : Int)
  | some (false, cs) => (Decimal.ofDigits cs : Int)

/-- The floating-point number `± n · 10 ^ power`. -/
def real? (negative : Bool) (n : Nat) (power : Int) : Option Number := do
  let x ← Decimal.Binary64.round? false n 1
  let x ← x.scaleByTen? power
  return .real (x.withSign negative)

/-- The value of a literal.  Without a point and an exponent it is a whole number if it fits 64 bits,
but for minus zero.  Otherwise the digits that fit 64 bits are scaled by a power of ten; a number too
large for that has no value. -/
def Literal.number? (l : Literal) : Option Number :=
  let (n, beyond) := absorb 0 l.whole
  let fraction := l.fraction.getD []
  let (m, unread) := absorb n fraction
  if l.fraction.isNone ∧ l.exponent.isNone ∧ beyond = [] then
    if !l.negative then some (.integer n)
    else if n = 0 ∨ -(n : Int) < minInt64 then real? true n 0
    else some (.integer (-n))
  else
    real? l.negative m (beyond.length - (fraction.length - unread.length : Nat) + l.power)

def readDigits (cs : List Char) : Option (List Char × List Char) :=
  match cs.span Char.isDigit with
  | ([], _) => none
  | (ds, rest) => some (ds, rest)

def readFraction : List Char → Option (Option (List Char) × List Char)
  | '.' :: cs => (readDigits cs).map fun (ds, rest) => (some ds, rest)
  | cs => some (none, cs)

def readExponentSign : List Char → Bool × List Char
  | '+' :: cs => (false, cs)
  | '-' :: cs => (true, cs)
  | cs => (false, cs)

def readExponent : List Char → Option (Option (Bool × List Char) × List Char)
  | c :: cs =>
    if c = 'e' ∨ c = 'E' then
      let (negative, cs) := readExponentSign cs
      (readDigits cs).map fun (ds, rest) => (some (negative, ds), rest)
    else some (none, c :: cs)
  | [] => some (none, [])

/-- The digits before the point: a lone zero, or digits that do not start with zero. -/
def readWhole (cs : List Char) : Option (List Char × List Char) :=
  match readDigits cs with
  | some ('0' :: _ :: _, _) => none
  | other => other

def readUnsigned (negative : Bool) (cs : List Char) : Option (Number × List Char) := do
  let (whole, cs) ← readWhole cs
  let (fraction, cs) ← readFraction cs
  let (exponent, cs) ← readExponent cs
  let number ← Literal.number? { negative, whole, fraction, exponent }
  return (number, cs)

/-- The rest of a text after a word that it starts with. -/
def afterWord? : List Char → List Char → Option (List Char)
  | [], cs => some cs
  | w :: word, c :: cs => if w = c then afterWord? word cs else none
  | _ :: _, [] => none

/-- Items up to a closing bracket, with a comma between each two, and what follows the bracket.  Each
item takes at least one character, so the number of characters bounds the number of items. -/
def readItems {α : Type} (close : Char) (item : List Char → Option (α × List Char)) :
    Nat → List Char → Option (List α × List Char)
  | 0, _ => none
  | bound + 1, cs => do
    let (first, cs) ← item (skipBlanks cs)
    match skipBlanks cs with
    | [] => none
    | c :: cs =>
      if c = close then return ([first], cs)
      else if c = ',' then
        let (others, cs) ← readItems close item bound cs
        return (first :: others, cs)
      else none

def readBracketed {α : Type} (close : Char) (item : List Char → Option (α × List Char))
    (cs : List Char) : Option (List α × List Char) :=
  match skipBlanks cs with
  | [] => none
  | c :: rest => if c = close then some ([], rest) else readItems close item (c :: rest).length (c :: rest)

def readMember {α : Type} (value : List Char → Option (α × List Char)) :
    List Char → Option ((String × α) × List Char)
  | '"' :: cs => do
    let (key, cs) ← readString cs
    match skipBlanks cs with
    | ':' :: cs =>
      let (v, cs) ← value cs
      return ((key, v), cs)
    | _ => none
  | _ => none

/-- The value at the start of a text that has no brackets, and what follows it. -/
def readScalar : List Char → Option (Value × List Char)
  | '"' :: cs => (readString cs).map fun (s, rest) => (.string s, rest)
  | '-' :: cs => (readUnsigned true cs).map fun (n, rest) => (.number n, rest)
  | 'n' :: cs => (afterWord? "ull".toList cs).map fun rest => (.null, rest)
  | 't' :: cs => (afterWord? "rue".toList cs).map fun rest => (.bool true, rest)
  | 'f' :: cs => (afterWord? "alse".toList cs).map fun rest => (.bool false, rest)
  | cs => (readUnsigned false cs).map fun (n, rest) => (.number n, rest)

/-- The value at the start of a text after blanks, with at most `depth` brackets around any part of
it, and what follows it. -/
def readValue (depth : Nat) (cs : List Char) : Option (Value × List Char) :=
  match skipBlanks cs, depth with
  | '[' :: _, 0 => none
  | '\x7b' :: _, 0 => none
  | '[' :: rest, depth + 1 =>
    (readBracketed ']' (readValue depth) rest).map fun (items, rest) => (.array items, rest)
  | '\x7b' :: rest, depth + 1 =>
    (readBracketed '\x7d' (readMember (readValue depth)) rest).map fun (members, rest) =>
      (Value.ofMembers members, rest)
  | cs, _ => readScalar cs

/-- The greatest number of brackets around a value. -/
def maxDepth : Nat := 127

/-- The value that a whole text stands for. -/
def read? (text : String) : Option Value :=
  match readValue maxDepth text.toList with
  | some (value, rest) => if skipBlanks rest = [] then some value else none
  | none => none

end ImsiPseudonym.Json
