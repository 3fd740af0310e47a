import ImsiPseudonym.Gzip.Bits

/-!
Canonical prefix codes.  A code is fixed by the lengths of its words: words of one length are
consecutive numbers, and follow on from the shorter words.
-/
namespace ImsiPseudonym.Gzip

/-- Reads something from the front of a sequence of bits. -/
abbrev BitReader := StateT (List Bool) Option

def readBit : BitReader Bool := fun
  | [] => none
  | bit :: bits => some (bit, bits)

def readBits : Nat → BitReader Nat
  | 0 => pure 0
  | width + 1 => do
    let bit ← readBit
    let rest ← readBits width
    pure (bit.toNat + 2 * rest)

/-- Skips what is left of a byte. -/
def skipToByte : BitReader Unit :=
  modify fun bits => bits.drop (bits.length % 8)

/-- A canonical prefix code: the symbols whose words have one bit, those whose words have two, and so
on, each row in order. -/
abbrev SymbolCode := List (List Nat)

def maxWordLength : Nat := 15

namespace SymbolCode

def row (lengths : List Nat) (length : Nat) : List Nat :=
  lengths.zipIdx.filterMap fun (l, symbol) => if l = length then some symbol else none

/-- The code in which each symbol's word has the given length, where zero means no word. -/
def ofLengths (lengths : List Nat) : SymbolCode :=
  (List.range maxWordLength).map fun n => row lengths (n + 1)

/-- How many words of the greatest length begin with a word of the code. -/
def weight (lengths : List Nat) : Nat :=
  lengths.foldl (fun total l => if l = 0 then total else total + 1 <<< (maxWordLength - l)) 0

/-- The words use up all there are, so that every sequence of bits begins with one. -/
def IsComplete (lengths : List Nat) : Prop :=
  weight lengths = 1 <<< maxWordLength

instance (lengths : List Nat) : Decidable (IsComplete lengths) :=
  inferInstanceAs (Decidable (_ = _))

def ofCompleteLengths? (lengths : List Nat) : Option SymbolCode :=
  if IsComplete lengths then some (ofLengths lengths) else none

/-- A code of the given lengths.  It is complete, or has no word, or one word of one bit. -/
def ofLengths? (lengths : List Nat) : Option SymbolCode :=
  let used := lengths.filter (· ≠ 0)
  if used = [] ∨ used = [1] ∨ IsComplete lengths then some (ofLengths lengths) else none

/-- Reads a word bit by bit.  The place counts from the first word of the current length. -/
def readFrom : SymbolCode → Nat → BitReader Nat
  | [], _ => failure
  | symbols :: longer, place => do
    let place := 2 * place + (← readBit).toNat
    match symbols[place]? with
    | some symbol => pure symbol
    | none => readFrom longer (place - symbols.length)

def read (code : SymbolCode) : BitReader Nat :=
  readFrom code 0

/-- The symbols with their words, from words of a given length on, the first of which is given. -/
def wordsFrom : SymbolCode → Nat → Nat → List (Nat × List Bool)
  | [], _, _ => []
  | symbols :: longer, length, first =>
    symbols.zipIdx.map (fun (symbol, place) => (symbol, (bitsOf length (first + place)).reverse)) ++
      wordsFrom longer (length + 1) (2 * (first + symbols.length))

def words (code : SymbolCode) : List (Nat × List Bool) :=
  code.wordsFrom 1 0

end SymbolCode

/-- The word of each symbol, by its number. -/
abbrev WordTable := Array (List Bool)

def WordTable.ofLengths (lengths : List Nat) : WordTable :=
  (SymbolCode.ofLengths lengths).words.foldl
    (fun table (symbol, word) => table.setIfInBounds symbol word) (Array.replicate lengths.length [])

def WordTable.word (table : WordTable) (symbol : Nat) : List Bool :=
  table[symbol]?.getD []

example : WordTable.ofLengths [2, 1, 3, 3] =
    #[[true, false], [false], [true, true, false], [true, true, true]] := by decide

def fixedLengths : List Nat :=
  List.replicate 144 8 ++ List.replicate 112 9 ++ List.replicate 24 7 ++ List.replicate 8 8

def fixedDistanceLengths : List Nat :=
  List.replicate 32 5

/-- The order in which the word lengths of the code for word lengths are written. -/
def lengthOrder : List Nat :=
  [16, 17, 18, 0, 8, 7, 9, 6, 10, 5, 11, 4, 12, 3, 13, 2, 14, 1, 15]

end ImsiPseudonym.Gzip
