import ImsiPseudonym.Gzip.Bits

/-!
Texts as sequences of pieces.  A piece is a byte, or a copy of what stands some distance before it; a
copy may overlap itself.  Each piece is named by one or two symbols, and a symbol that names several
lengths or distances is followed by the bits that tell them apart.
-/
namespace ImsiPseudonym.Gzip

inductive Piece where
  | byte (b : UInt8)
  | copy (length distance : Nat)
deriving DecidableEq, Repr

namespace Piece

def size : Piece → Nat
  | .byte _ => 1
  | .copy length _ => length

/-- Appends bytes that stand a given distance before the end, one after the other.  Before the start
of a text there are zeros. -/
def repeatFrom (distance : Nat) : Nat → Array UInt8 → Array UInt8
  | 0, out => out
  | length + 1, out =>
    let b := if distance ≤ out.size then out[out.size - distance]?.getD 0 else 0
    repeatFrom distance length (out.push b)

def appendTo (out : Array UInt8) : Piece → Array UInt8
  | .byte b => out.push b
  | .copy length distance => repeatFrom distance length out

end Piece

def expand (pieces : List Piece) : Array UInt8 :=
  pieces.foldl Piece.appendTo #[]

example : expand [.byte 1, .byte 2, .copy 5 2] = #[1, 2, 1, 2, 1, 2, 1] := by decide

/-- The symbol that ends a block; below it are the bytes, above it the lengths of copies. -/
def endOfBlock : Nat := 256

/-- The symbol of the shortest copies. -/
def firstLength : Nat := endOfBlock + 1

/-- Numbers in rows: the least number of each row, and how many bits tell the numbers of the row
apart. -/
abbrev Rows := List (Nat × Nat)

def lengthRows : Rows :=
  [(3, 0), (4, 0), (5, 0), (6, 0), (7, 0), (8, 0), (9, 0), (10, 0), (11, 1), (13, 1), (15, 1),
    (17, 1), (19, 2), (23, 2), (27, 2), (31, 2), (35, 3), (43, 3), (51, 3), (59, 3), (67, 4),
    (83, 4), (99, 4), (115, 4), (131, 5), (163, 5), (195, 5), (227, 5), (258, 0)]

def distanceRows : Rows :=
  [(1, 0), (2, 0), (3, 0), (4, 0), (5, 1), (7, 1), (9, 2), (13, 2), (17, 3), (25, 3), (33, 4),
    (49, 4), (65, 5), (97, 5), (129, 6), (193, 6), (257, 7), (385, 7), (513, 8), (769, 8),
    (1025, 9), (1537, 9), (2049, 10), (3073, 10), (4097, 11), (6145, 11), (8193, 12), (12289, 12),
    (16385, 13), (24577, 13)]

namespace Rows

/-- The row of a number: the last one that does not begin above it. -/
def indexOf (rows : Rows) (n : Nat) : Nat :=
  rows.countP (fun row => row.1 ≤ n) - 1

/-- The bits that tell a number from the others of its row. -/
def offsetBits (rows : Rows) (n : Nat) : List Bool :=
  match rows[rows.indexOf n]? with
  | some (least, width) => bitsOf width (n - least)
  | none => []

end Rows

/-- The symbol of a byte or of the length of a copy. -/
def Piece.symbol : Piece → Nat
  | .byte b => b.toNat
  | .copy length _ => firstLength + lengthRows.indexOf length

def Piece.distanceSymbol? : Piece → Option Nat
  | .byte _ => none
  | .copy _ distance => some (distanceRows.indexOf distance)

end ImsiPseudonym.Gzip
