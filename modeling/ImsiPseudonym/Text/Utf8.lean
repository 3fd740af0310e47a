/-!
Bytes as text.  Bytes that are no UTF-8 are not refused: each longest run of bytes that begins a
character without completing it, and each byte that begins none, becomes one U+FFFD.
-/
namespace ImsiPseudonym.Text.Utf8

/-- The character that stands for bytes which are no text. -/
def replacement : Char := '\uFFFD'

/-- What is still missing of a character: the range of its next byte, the ranges of the bytes after
that, and the bits that have been read. -/
inductive Pending where
  | nothing
  | byte (low high : UInt8) (later : Nat) (bits : Nat)
deriving DecidableEq, Repr

/-- What a byte at the start of a character announces, or the character it is. -/
def lead (b : UInt8) : List Char × Pending :=
  if b < 0x80 then ([Char.ofNat b.toNat], .nothing)
  else if b < 0xC2 then ([replacement], .nothing)
  else if b < 0xE0 then ([], .byte 0x80 0xBF 0 (b.toNat % 0x20))
  else if b = 0xE0 then ([], .byte 0xA0 0xBF 1 0)
  else if b = 0xED then ([], .byte 0x80 0x9F 1 0xD)
  else if b < 0xF0 then ([], .byte 0x80 0xBF 1 (b.toNat % 0x10))
  else if b = 0xF0 then ([], .byte 0x90 0xBF 2 0)
  else if b < 0xF4 then ([], .byte 0x80 0xBF 2 (b.toNat % 0x08))
  else if b = 0xF4 then ([], .byte 0x80 0x8F 2 4)
  else ([replacement], .nothing)

/-- Reads one byte: the characters that it completes and what is missing after it. -/
def feed : Pending → UInt8 → List Char × Pending
  | .nothing, b => lead b
  | .byte low high later bits, b =>
    if low ≤ b ∧ b ≤ high then
      let bits := bits * 0x40 + b.toNat % 0x40
      match later with
      | 0 => ([Char.ofNat bits], .nothing)
      | later + 1 => ([], .byte 0x80 0xBF later bits)
    else
      let (chars, pending) := lead b
      (replacement :: chars, pending)

def decodeFrom : Pending → List UInt8 → List Char
  | .nothing, [] => []
  | .byte .., [] => [replacement]
  | pending, b :: bytes =>
    let (chars, pending) := feed pending b
    chars ++ decodeFrom pending bytes

def decode (bytes : List UInt8) : String :=
  String.ofList (decodeFrom .nothing bytes)

def encode (s : String) : List UInt8 :=
  s.toUTF8.toList

example : decode [0xF4, 0x90, 0x80, 0x80] = "\uFFFD\uFFFD\uFFFD\uFFFD" := by decide
example : decode [0xE2, 0x82, 0x28] = "\uFFFD(" := by decide
example : decode [0xF0, 0x9F, 0x98, 0x80] = "😀" := by decide

theorem toList_loop (bytes : ByteArray) (i : Nat) (front : List UInt8) :
    ByteArray.toList.loop bytes i front = front.reverse ++ bytes.data.toList.drop i := by
  induction i, front using ByteArray.toList.loop.induct bytes with
  | case1 i front hlt ih =>
      have hlength : i < bytes.data.toList.length := by simpa using hlt
      rw [ByteArray.toList.loop, if_pos hlt, ih, List.drop_eq_getElem_cons hlength]
      simp [ByteArray.get!, hlt]
  | case2 i front hge =>
      have hend : bytes.data.toList.length ≤ i := by simpa using Nat.le_of_not_lt hge
      rw [ByteArray.toList.loop, if_neg hge, List.drop_eq_nil_of_le hend, List.append_nil]

/-- The bytes of a text are those of its characters, one after the other. -/
theorem encode_eq (s : String) : encode s = s.toList.flatMap String.utf8EncodeChar := by
  rw [encode, ByteArray.toList, toList_loop, String.toUTF8_eq_toByteArray, ← String.utf8Encode_toList,
    List.utf8Encode, List.toList_data_toByteArray]
  rfl

theorem encode_append (s t : String) : encode (s ++ t) = encode s ++ encode t := by
  rw [encode_eq, encode_eq, encode_eq, String.toList_append, List.flatMap_append]

theorem length_encode (s : String) : (encode s).length = s.utf8ByteSize := by
  rw [encode, ByteArray.toList, toList_loop]
  simp

/-- Each character of ASCII is one byte. -/
theorem length_encode_of_ascii {s : String} (h : ∀ c ∈ s.toList, c.toNat < 0x80) :
    (encode s).length = s.toList.length := by
  have hsize : ∀ c ∈ s.toList, (String.utf8EncodeChar c).length = 1 := by
    intro c hc
    rw [String.length_utf8EncodeChar, Char.utf8Size_eq_one_iff, UInt32.le_iff_toNat_le]
    exact Nat.le_of_lt_succ (h c hc)
  rw [encode_eq, List.length_flatMap, List.map_congr_left hsize, List.map_const', List.sum_replicate_nat,
    Nat.mul_one]

theorem encode_injective {s t : String} (h : encode s = encode t) : s = t := by
  apply String.toByteArray_inj.mp
  rw [← String.utf8Encode_toList, ← String.utf8Encode_toList, List.utf8Encode, List.utf8Encode,
    ← encode_eq, ← encode_eq, h]

end ImsiPseudonym.Text.Utf8
