import ImsiPseudonym.Gzip.PrefixCode
import ImsiPseudonym.Gzip.Search
import ImsiPseudonym.Gzip.WordLengths

/-!
Writing compressed data.  A short block is written in the fixed code, a longer one in a shortest code of
its own, which comes before it.  A block that would not become shorter is written as it is.
-/
namespace ImsiPseudonym.Gzip

def Piece.bits (symbols distances : WordTable) : Piece → List Bool
  | .byte b => symbols.word b.toNat
  | .copy length distance =>
    symbols.word (firstLength + lengthRows.indexOf length) ++ lengthRows.offsetBits length ++
      distances.word (distanceRows.indexOf distance) ++ distanceRows.offsetBits distance

def Block.pieceBits (b : Block) (symbols distances : WordTable) : List Bool :=
  b.pieces.flatMap (Piece.bits symbols distances) ++ symbols.word endOfBlock

def occurrences (count : Nat) (symbols : List Nat) : List Nat :=
  (symbols.foldl (fun (counts : Array Nat) symbol => counts.modify symbol (· + 1))
    (Array.replicate count 0)).toList

/-- A symbol of the code for word lengths, and a number that follows it in so many bits. -/
structure LengthSymbol where
  symbol : Nat
  more : Nat
  width : Nat
deriving DecidableEq, Repr

namespace LengthSymbol

def plain (length : Nat) : LengthSymbol := ⟨length, 0, 0⟩

/-- A row of zeros, which is at most 138 long. -/
def zeros (count : Nat) : List LengthSymbol :=
  if count < 3 then List.replicate count (plain 0)
  else if count ≤ 10 then [⟨17, count - 3, 3⟩]
  else [⟨18, count - 11, 7⟩]

/-- Repetitions of the last length, which are at most six. -/
def again (length count : Nat) : List LengthSymbol :=
  if count < 3 then List.replicate count (plain length) else [⟨16, count - 3, 2⟩]

/-- A number of repetitions in groups of a size, and one group of the rest. -/
def inGroups (size count : Nat) (group : Nat → List LengthSymbol) : List LengthSymbol :=
  (List.replicate (count / size) (group size)).flatten ++ group (count % size)

/-- Lengths that are all the same. -/
def ofRun : List Nat → List LengthSymbol
  | [] => []
  | length :: more =>
    if length = 0 then inGroups 138 (more.length + 1) zeros
    else plain length :: inGroups 6 more.length (again length)

def ofLengths (lengths : List Nat) : List LengthSymbol :=
  (lengths.splitBy (· == ·)).flatMap ofRun

def bits (code : WordTable) (s : LengthSymbol) : List Bool :=
  code.word s.symbol ++ bitsOf s.width s.more

end LengthSymbol

/-- A list of lengths without the zeros at its end, but at least so many. -/
def withoutTail (least : Nat) (lengths : List Nat) : List Nat :=
  lengths.take (max least (lengths.reverse.dropWhile (· = 0)).length)

def maxLengthWord : Nat := 7

/-- The bits of two codes, by the word lengths of their symbols. -/
def codeBits (symbolLengths distanceLengths : List Nat) : List Bool :=
  let symbolLengths := withoutTail 257 symbolLengths
  let distanceLengths := withoutTail 1 distanceLengths
  let written := LengthSymbol.ofLengths (symbolLengths ++ distanceLengths)
  let lengths := wordLengths maxLengthWord (occurrences 19 (written.map LengthSymbol.symbol))
  let ordered := withoutTail 4 (lengthOrder.map fun symbol => lengths[symbol]?.getD 0)
  bitsOf 5 (symbolLengths.length - 257) ++ bitsOf 5 (distanceLengths.length - 1) ++
    bitsOf 4 (ordered.length - 4) ++ ordered.flatMap (bitsOf 3) ++
    written.flatMap (LengthSymbol.bits (.ofLengths lengths))

namespace Block

def fixedBits (b : Block) : List Bool :=
  bitsOf 2 1 ++ b.pieceBits (.ofLengths fixedLengths) (.ofLengths fixedDistanceLengths)

def ownBits (b : Block) : List Bool :=
  let symbols := wordLengths maxWordLength
    (occurrences 286 (endOfBlock :: b.pieces.map Piece.symbol))
  let distances := wordLengths maxWordLength
    (occurrences 30 (b.pieces.filterMap Piece.distanceSymbol?))
  bitsOf 2 2 ++ codeBits symbols distances ++ b.pieceBits (.ofLengths symbols) (.ofLengths distances)

/-- The size from which a block has its own code. -/
def ownCodeSize : Nat := 48

/-- The size of a block that always becomes shorter in the fixed code. -/
def plainSize : Nat := 32

def codedBits (b : Block) : List Bool :=
  if b.size < ownCodeSize then b.fixedBits else b.ownBits

/-- The bits that fill up a byte of which some are used. -/
def filling (used : Nat) : List Bool :=
  List.replicate ((8 - used % 8) % 8) false

/-- The block as it is, where so many bits stand before it. -/
def storedBits (b : Block) (data : Array UInt8) (before : Nat) : List Bool :=
  bitsOf 2 0 ++ filling (before + 2) ++ bitsOf 16 b.size ++ bitsOf 16 (0xFFFF - b.size) ++
    unpack (data.extract b.start (b.start + b.size)).toList

/-- The block in the shorter way, where so many bits stand before it. -/
def bits (b : Block) (data : Array UInt8) (before : Nat) : List Bool :=
  let coded := b.codedBits
  if plainSize < b.size && b.isKept && b.size ≤ (before % 8 + coded.length) / 8 + 1 then
    b.storedBits data before
  else coded

end Block

/-- The bits of blocks, each after a bit that says whether it is the last, where so many bits stand
before them. -/
def blockBits (data : Array UInt8) : Nat → List Block → List Bool
  | _, [] => []
  | before, b :: rest =>
    let own := rest.isEmpty :: b.bits data (before + 1)
    own ++ blockBits data (before + own.length) rest

def deflate (bytes : List UInt8) : List UInt8 :=
  let data := bytes.toArray
  pack (blockBits data 0 (blocksOf data))

end ImsiPseudonym.Gzip
