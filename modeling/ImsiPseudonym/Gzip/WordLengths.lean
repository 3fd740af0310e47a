/-!
The lengths of the words of a shortest code.  Symbols are joined pairwise into groups, the two lightest
first, and a word has one bit for each time that its symbol was joined.  Words that come out longer than
allowed are cut, and others made longer in return.
-/
namespace ImsiPseudonym.Gzip

/-- A group of symbols: how often they occur together, and the length of each one's word. -/
structure Group where
  weight : Nat
  lengths : List Nat
deriving DecidableEq, Repr

namespace Group

def join (g h : Group) : Group :=
  ⟨g.weight + h.weight, (g.lengths ++ h.lengths).map (· + 1)⟩

def insert (g : Group) : List Group → List Group
  | [] => [g]
  | h :: rest => if h.weight ≤ g.weight then h :: insert g rest else g :: h :: rest

def joinAll : Nat → List Group → List Nat
  | fuel + 1, g :: h :: rest => joinAll fuel ((g.join h).insert rest)
  | _, [g] => g.lengths
  | _, _ => []

end Group

def freeLengths (weights : List Nat) : List Nat :=
  match weights with
  | [_] => [1]
  | weights => Group.joinAll weights.length (weights.map fun weight => ⟨weight, [0]⟩)

/-- How many words have the greatest length, the one below, and so on; longer words count as of the
greatest length. -/
def tally (limit : Nat) (lengths : List Nat) : List Nat :=
  (List.range limit).map fun n => lengths.countP fun length => min length limit = limit - n

/-- How many words of the greatest length there would have to be more. -/
def excess (limit : Nat) (rows : List Nat) : Nat :=
  rows.zipIdx.foldl (fun total (count, n) => total + count <<< n) 0 - 1 <<< limit

/-- Lengthens one word of the first row of shorter words that has one, and another to be beside it. -/
def lengthenOne : List Nat → List Nat
  | longer :: shorter :: rest =>
    if shorter = 0 then longer :: lengthenOne (shorter :: rest)
    else (longer + 2) :: (shorter - 1) :: rest
  | rows => rows

def mend : Nat → List Nat → List Nat
  | 0, rows => rows
  | missing + 1, rows =>
    match rows with
    | [] => []
    | longest :: shorter => mend missing (lengthenOne ((longest - 1) :: shorter))

/-- The word length of each symbol in a shortest code whose words are no longer than allowed, by how
often each symbol occurs.  A symbol that does not occur has no word.  Rarer symbols have longer words,
and of those that occur equally often the later ones have the shorter words. -/
def wordLengths (limit : Nat) (counts : List Nat) : List Nat :=
  let used := counts.zipIdx.filter fun entry => entry.1 ≠ 0
  let sorted := used.mergeSort fun a b => a.1 ≤ b.1
  let rows := tally limit (freeLengths (sorted.map Prod.fst))
  let rows := if sorted.length ≤ 1 then rows else mend (excess limit rows) rows
  let lengths := rows.zipIdx.flatMap fun (count, n) => List.replicate count (limit - n)
  let table := (sorted.zip lengths).foldl
    (fun (table : Array Nat) ((_, symbol), length) => table.setIfInBounds symbol length)
    (Array.replicate counts.length 0)
  table.toList

end ImsiPseudonym.Gzip
