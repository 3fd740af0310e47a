/-!
The cyclic redundancy check of 32 bits that ends a gzip member.  It is the remainder of the data as
a polynomial, kept with its bits reversed and complemented at both ends.
-/
namespace ImsiPseudonym.Gzip

/-- The generator polynomial with its bits reversed. -/
def polynomial : UInt32 := 0xEDB88320

/-- Divides out one bit. -/
def shiftOut (crc : UInt32) : UInt32 :=
  if crc &&& 1 = 1 then (crc >>> 1) ^^^ polynomial else crc >>> 1

def feedByte (crc : UInt32) (b : UInt8) : UInt32 :=
  (List.range 8).foldl (fun crc _ => shiftOut crc) (crc ^^^ b.toUInt32)

def checksum (bytes : List UInt8) : UInt32 :=
  ~~~bytes.foldl feedByte 0xFFFFFFFF

example : checksum "123456789".toUTF8.toList = 0xCBF43926 := by decide +kernel

end ImsiPseudonym.Gzip
