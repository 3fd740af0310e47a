import ImsiPseudonym.Text.Utf8

/-!
Percent encoding: a byte as a percent sign and two hexadecimal digits.  Which ASCII characters are
written that way depends on the part of a URL they stand in; controls and everything beyond ASCII
always are.
-/
namespace ImsiPseudonym.Url

/-- The ASCII characters that a part of a URL does not hold as they are, the controls apart. -/
structure EncodeSet where
  chars : List Char

namespace EncodeSet

def fragment : EncodeSet := ⟨" \"<>\x60".toList⟩
def query : EncodeSet := ⟨" \"#<>'".toList⟩
def path : EncodeSet := ⟨fragment.chars ++ "#?\x7b\x7d".toList⟩
def userinfo : EncodeSet := ⟨path.chars ++ "/:;=@[\\]^|".toList⟩

def contains (s : EncodeSet) (c : Char) : Bool :=
  c.toNat < 0x20 || 0x7F ≤ c.toNat || s.chars.contains c

end EncodeSet

def upperHexDigit (n : Nat) : Char :=
  (Nat.digitChar (n % 16)).toUpper

/-- A byte in percent encoding. -/
def percentByte (b : UInt8) : List Char :=
  ['%', upperHexDigit (b.toNat / 16), upperHexDigit b.toNat]

/-- The characters with those of a set, and all beyond ASCII, in percent encoding. -/
def percentEncode (s : EncodeSet) (cs : List Char) : List Char :=
  cs.flatMap fun c =>
    if s.contains c then (Text.Utf8.encode (String.ofList [c])).flatMap percentByte else [c]

def hexDigitValue? (c : Char) : Option Nat :=
  if '0' ≤ c ∧ c ≤ '9' then some (c.toNat - '0'.toNat)
  else if 'a' ≤ c ∧ c ≤ 'f' then some (c.toNat - 'a'.toNat + 10)
  else if 'A' ≤ c ∧ c ≤ 'F' then some (c.toNat - 'A'.toNat + 10)
  else none

/-- The bytes behind a text in percent encoding; a percent sign without two digits is itself. -/
def percentDecode : List Char → List UInt8
  | [] => []
  | '%' :: a :: b :: rest =>
    match hexDigitValue? a, hexDigitValue? b with
    | some high, some low => UInt8.ofNat (high * 16 + low) :: percentDecode rest
    | _, _ => 0x25 :: percentDecode (a :: b :: rest)
  | c :: rest => Text.Utf8.encode (String.ofList [c]) ++ percentDecode rest

end ImsiPseudonym.Url
