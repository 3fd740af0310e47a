/-!
Bytes as bits.  The lowest bit of a byte comes first, and a number of several bits is stored from
its lowest bit on.
-/
namespace ImsiPseudonym.Gzip

def bitsOf : Nat → Nat → List Bool
  | 0, _ => []
  | width + 1, n => (n % 2 == 1) :: bitsOf width (n / 2)

/-- The number that bits stand for, the lowest one first. -/
def ofBits : List Bool → Nat
  | [] => 0
  | bit :: bits => bit.toNat + 2 * ofBits bits

def unpack (bytes : List UInt8) : List Bool :=
  bytes.flatMap fun b => bitsOf 8 b.toNat

/-- Bits as bytes, the last of which is filled up with zeros. -/
def pack (bits : List Bool) : List UInt8 :=
  match bits with
  | [] => []
  | bit :: rest => UInt8.ofNat (ofBits (bit :: rest.take 7)) :: pack (rest.drop 7)
termination_by bits.length
decreasing_by exact Nat.lt_succ_of_le (by rw [List.length_drop]; exact Nat.sub_le _ _)

/-- A number by bytes, the lowest one first. -/
def littleEndian : Nat → Nat → List UInt8
  | 0, _ => []
  | width + 1, n => UInt8.ofNat n :: littleEndian width (n / 0x100)

end ImsiPseudonym.Gzip
