import ImsiPseudonym.Gzip.Checksum
import ImsiPseudonym.Gzip.Deflate
import ImsiPseudonym.Gzip.Inflate

/-!
Members of the gzip format.  A member is a header, compressed data, and the check and length of what it
holds.
-/
namespace ImsiPseudonym.Gzip

/-- The two bytes that begin a member and the one method of compression. -/
def magic : List UInt8 := [0x1F, 0x8B, 0x08]

/-- The check of the bytes and their number, which end a member. -/
def trailer (bytes : List UInt8) : List UInt8 :=
  littleEndian 4 (checksum bytes).toNat ++ littleEndian 4 bytes.length

/-- The bytes as one member without name, comment or time. -/
def compress (bytes : List UInt8) : List UInt8 :=
  magic ++ [0, 0, 0, 0, 0, 0, 0xFF] ++ deflate bytes ++ trailer bytes

def skip? (count : Nat) (bytes : List UInt8) : Option (List UInt8) :=
  if bytes.length < count then none else some (bytes.drop count)

def skipText? : List UInt8 → Option (List UInt8)
  | [] => none
  | b :: bytes => if b = 0 then some bytes else skipText? bytes

/-- Skips an extra field, which begins with its length. -/
def skipExtra? : List UInt8 → Option (List UInt8)
  | low :: high :: bytes => skip? (low.toNat + 0x100 * high.toNat) bytes
  | _ => none

def skipIf (flags flag : UInt8) (skip? : List UInt8 → Option (List UInt8)) (bytes : List UInt8) :
    Option (List UInt8) :=
  if flags &&& flag = 0 then some bytes else skip? bytes

/-- Skips the check of the header, which is the low half of that of all bytes before it. -/
def skipHeaderCheck? (member bytes : List UInt8) : Option (List UInt8) :=
  let header := member.take (member.length - bytes.length)
  let check := littleEndian 2 (checksum header).toNat
  if check.isPrefixOf bytes then some (bytes.drop 2) else none

def afterHeader? : List UInt8 → Option (List UInt8)
  | member@(0x1F :: 0x8B :: 0x08 :: flags :: bytes) => do
    let bytes ← skip? 6 bytes
    let bytes ← skipIf flags 4 skipExtra? bytes
    let bytes ← skipIf flags 8 skipText? bytes
    let bytes ← skipIf flags 16 skipText? bytes
    skipIf flags 2 (skipHeaderCheck? member) bytes
  | _ => none

def readMember? (bytes : List UInt8) : Option (List UInt8 × List UInt8) := do
  let (out, rest) ← inflate? (← afterHeader? bytes)
  if (trailer out).isPrefixOf rest then some (out, rest.drop 8) else none

/-- The bytes that a member holds; none if it is damaged. -/
def decompress? (bytes : List UInt8) : Option (List UInt8) :=
  (readMember? bytes).map Prod.fst

def piecesAfter : Nat → List (List UInt8) → List (List UInt8)
  | 0, pieces => pieces
  | _, [] => []
  | count, piece :: pieces => piecesAfter (count - piece.length) pieces

/-- The bytes behind a sequence that comes in pieces and begins with a member.  What stands behind the
member in its last piece does not count, and the pieces after that stand for themselves.  Nothing at all
is no member, and holds nothing. -/
def decompressPieces? (pieces : List (List UInt8)) : Option (List UInt8) :=
  let bytes := pieces.flatten
  if bytes = [] then some []
  else do
    let (out, rest) ← readMember? bytes
    return out ++ (piecesAfter (bytes.length - rest.length) pieces).flatten

end ImsiPseudonym.Gzip
