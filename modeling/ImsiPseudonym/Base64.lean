/-!
Base64: three bytes as four characters of a fixed alphabet, the last group filled up with the padding
character.  Main statement: `decode_encode`, decoding gives the encoded bytes back.
-/
namespace ImsiPseudonym.Base64

/-- The character of a number below 64. -/
def symbol (n : Nat) : Char :=
  if n < 26 then Char.ofNat ('A'.toNat + n)
  else if n < 52 then Char.ofNat ('a'.toNat + (n - 26))
  else if n < 62 then Char.ofNat ('0'.toNat + (n - 52))
  else if n = 62 then '+'
  else '/'

/-- The number behind a character of the alphabet. -/
def symbolValue? (c : Char) : Option Nat :=
  if 'A' ≤ c ∧ c ≤ 'Z' then some (c.toNat - 'A'.toNat)
  else if 'a' ≤ c ∧ c ≤ 'z' then some (c.toNat - 'a'.toNat + 26)
  else if '0' ≤ c ∧ c ≤ '9' then some (c.toNat - '0'.toNat + 52)
  else if c = '+' then some 62
  else if c = '/' then some 63
  else none

def padding : Char := '='

/-- Bytes as characters. -/
def encode : List UInt8 → List Char
  | [] => []
  | [a] => [symbol (a.toNat / 4), symbol (a.toNat % 4 * 16), padding, padding]
  | [a, b] =>
    [symbol (a.toNat / 4), symbol (a.toNat % 4 * 16 + b.toNat / 16), symbol (b.toNat % 16 * 4),
      padding]
  | a :: b :: c :: rest =>
    symbol (a.toNat / 4) :: symbol (a.toNat % 4 * 16 + b.toNat / 16) ::
      symbol (b.toNat % 16 * 4 + c.toNat / 64) :: symbol (c.toNat % 64) :: encode rest

def encodeText (bytes : List UInt8) : String :=
  String.ofList (encode bytes)

/-- The byte of a number below 256. -/
def byteOf (n : Nat) : UInt8 := UInt8.ofNat n

/-- The bytes behind characters, if these are whole groups with the padding at the end. -/
def decode? : List Char → Option (List UInt8)
  | [] => some []
  | w :: x :: y :: z :: rest => do
    let w ← symbolValue? w
    let x ← symbolValue? x
    if y = padding ∧ z = padding ∧ rest = [] then
      if x % 16 = 0 then some [byteOf (w * 4 + x / 16)] else none
    else
      let y ← symbolValue? y
      if z = padding ∧ rest = [] then
        if y % 4 = 0 then some [byteOf (w * 4 + x / 16), byteOf (x % 16 * 16 + y / 4)] else none
      else
        let z ← symbolValue? z
        let bytes ← decode? rest
        return byteOf (w * 4 + x / 16) :: byteOf (x % 16 * 16 + y / 4) ::
          byteOf (y % 4 * 64 + z) :: bytes
  | _ => none

theorem byteOf_toNat {n : Nat} {b : UInt8} (h : n = b.toNat) : byteOf n = b := by
  rw [h, byteOf, UInt8.ofNat_toNat]

theorem symbolValue?_symbol {n : Nat} (h : n < 64) : symbolValue? (symbol n) = some n := by
  have hall : ∀ k < 64, symbolValue? (symbol k) = some k := by decide
  exact hall n h

theorem symbol_ne_padding {n : Nat} (h : n < 64) : symbol n ≠ padding := by
  have hall : ∀ k < 64, symbol k ≠ padding := by decide
  exact hall n h

theorem decode_encode (bytes : List UInt8) : decode? (encode bytes) = some bytes := by
  induction bytes using encode.induct with
  | case1 => rfl
  | case2 a =>
    have ha := a.toNat_lt
    simp only [encode, decode?, symbolValue?_symbol (n := a.toNat / 4) (by omega),
      symbolValue?_symbol (n := a.toNat % 4 * 16) (by omega), Option.bind_eq_bind,
      Option.bind_some, and_self, if_true]
    rw [if_pos (by omega), byteOf_toNat (b := a) (by omega)]
  | case3 a b =>
    have ha := a.toNat_lt
    have hb := b.toNat_lt
    simp only [encode, decode?, symbolValue?_symbol (n := a.toNat / 4) (by omega),
      symbolValue?_symbol (n := a.toNat % 4 * 16 + b.toNat / 16) (by omega),
      symbolValue?_symbol (n := b.toNat % 16 * 4) (by omega),
      symbol_ne_padding (n := b.toNat % 16 * 4) (by omega), Option.bind_eq_bind,
      Option.bind_some, and_self, if_true, false_and, if_false]
    rw [if_pos (by omega), byteOf_toNat (b := a) (by omega), byteOf_toNat (b := b) (by omega)]
  | case4 a b c rest ih =>
    have ha := a.toNat_lt
    have hb := b.toNat_lt
    have hc := c.toNat_lt
    simp only [encode, decode?, symbolValue?_symbol (n := a.toNat / 4) (by omega),
      symbolValue?_symbol (n := a.toNat % 4 * 16 + b.toNat / 16) (by omega),
      symbolValue?_symbol (n := b.toNat % 16 * 4 + c.toNat / 64) (by omega),
      symbolValue?_symbol (n := c.toNat % 64) (by omega),
      symbol_ne_padding (n := b.toNat % 16 * 4 + c.toNat / 64) (by omega),
      symbol_ne_padding (n := c.toNat % 64) (by omega), ih, Option.bind_eq_bind,
      Option.bind_some, false_and, if_false]
    rw [byteOf_toNat (b := a) (by omega), byteOf_toNat (b := b) (by omega),
      byteOf_toNat (b := c) (by omega)]
    rfl

end ImsiPseudonym.Base64
