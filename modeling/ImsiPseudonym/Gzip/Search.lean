import ImsiPseudonym.Gzip.Piece

/-!
Cutting a text into pieces.  At each place the longest copy is looked for among the earlier places that
begin alike, the latest first, and given up after a number of them.  A copy is put off by one byte: if
the next place has a longer one, the byte stands for itself and the longer copy is taken.
-/
namespace ImsiPseudonym.Gzip

def windowSize : Nat := 0x8000

def maxCopy : Nat := 258

/-- Places are told apart by their last sixteen bits. -/
def placeLimit : Nat := 0x10000

/-- The mark of three bytes; places with different marks do not begin alike. -/
def mark (a b c : UInt8) : Nat :=
  ((a.toNat <<< 10) ^^^ (b.toNat <<< 5) ^^^ c.toNat) % 0x8000

/-- A text with, for each place that begins three bytes, the last place before it of the same mark, or
zero if there is none. -/
structure Indexed where
  data : Array UInt8
  links : Array Nat

namespace Indexed

def ofData (data : Array UInt8) : Indexed :=
  let byte (i : Nat) := data[i]?.getD 0
  let (_, links) := (data.size - 2).fold
    (fun place _ ((lasts, links) : Array Nat × Array Nat) =>
      let m := mark (byte place) (byte (place + 1)) (byte (place + 2))
      let last := lasts[m]?.getD 0
      (lasts.setIfInBounds m place, links.push last))
    (Array.replicate 0x8000 0, #[])
  ⟨data, links⟩

def agree (t : Indexed) (i j : Nat) : Bool :=
  t.data[i]?.getD 0 == t.data[j]?.getD 0

def agreement (t : Indexed) (i j : Nat) : Nat → Nat
  | 0 => 0
  | limit + 1 => if t.agree i j then agreement t (i + 1) (j + 1) limit + 1 else 0

end Indexed

inductive Walk where
  | ended
  | paused (place : Nat)
  | promising (place : Nat)

/-- Follows a number of links from a place, up to one that may be the source of a copy longer than
given: the last two of the bytes that it needs agree. -/
def Indexed.follow (t : Indexed) (position reach length : Nat) : Nat → Nat → Walk
  | 0, place => .paused place
  | links + 1, place =>
    let link := t.links[place]?.getD 0
    let distance := (position - link) % placeLimit
    if link % placeLimit = 0 ∨ distance = 0 ∨ reach < distance then .ended
    else
      let place := position - distance
      if t.agree (place + length) (position + length) &&
          t.agree (place + length - 1) (position + length - 1) then .promising place
      else follow t position reach length links place

structure Copy where
  length : Nat
  distance : Nat
deriving DecidableEq, Repr

def Copy.piece (c : Copy) : Piece := .copy c.length c.distance

/-- Looks for ever longer copies in rounds.  Each round ends at a promising place or after three
links. -/
def Indexed.search (t : Indexed) (position limit reach : Nat) :
    Nat → Nat → Nat → Option Copy → Option Copy
  | 0, _, _, found => found
  | rounds + 1, place, length, found =>
    match t.follow position reach length 3 place with
    | .ended => found
    | .paused place => search t position limit reach rounds place length found
    | .promising place =>
      let agreed := t.agreement place position limit
      let copy : Copy := ⟨agreed, position - place⟩
      if agreed ≤ length then search t position limit reach rounds place length found
      else if agreed = limit then some copy
      else search t position limit reach rounds place agreed (some copy)

/-- The length from which a copy is good enough to look less hard for a longer one. -/
def goodLength : Nat := 32

def roundsBeyond (length : Nat) : Nat :=
  if length < goodLength then 43 else 11

/-- The distance from which the shortest copies take more bits than their bytes. -/
def farDistance : Nat := 0x2000

def Indexed.ahead (t : Indexed) (position : Nat) : Nat :=
  min maxCopy (t.data.size - position)

def Indexed.reach (t : Indexed) (position : Nat) : Nat :=
  min position (windowSize - t.ahead position)

/-- A copy at a position that is longer than given and worth its bits. -/
def Indexed.longer? (t : Indexed) (position length : Nat) : Option Copy :=
  let limit := t.ahead position
  if limit ≤ length then none
  else
    (t.search position limit (t.reach position) (roundsBeyond length) position length none).filter
      fun c => !(c.length = 3 && farDistance ≤ c.distance) && c.distance ≠ position % windowSize

/-- A stretch of a text that is written with one code. -/
structure Block where
  pieces : List Piece
  start : Nat
  size : Nat
  /-- All of its bytes are still at hand when it is written. -/
  isKept : Bool

/-- A text that has been cut up to a position. -/
structure Cutting where
  position : Nat
  /-- A copy that was put off at the byte before the position. -/
  held : Option Copy
  /-- The pieces of the current block in reverse, and how many of them are bytes and copies. -/
  pieces : List Piece
  byteCount : Nat
  copyCount : Nat
  start : Nat
  size : Nat
  /-- How many bytes before the position are at hand. -/
  kept : Nat
  /-- The blocks before the current one in reverse. -/
  blocks : List Block

namespace Cutting

def empty : Cutting := ⟨0, none, [], 0, 0, 0, 0, 0, []⟩

def putByte (c : Cutting) (b : UInt8) : Cutting :=
  { c with pieces := .byte b :: c.pieces, byteCount := c.byteCount + 1, size := c.size + 1 }

def putCopy (c : Cutting) (copy : Copy) : Cutting :=
  { c with
    pieces := copy.piece :: c.pieces
    copyCount := c.copyCount + 1
    size := c.size + copy.length }

/-- The room that the pieces of the current block take: a byte for a byte, three for a copy, and one for
every eight of them. -/
def room (c : Cutting) : Nat :=
  1 + c.byteCount + 3 * c.copyCount + (c.byteCount + c.copyCount) / 8

/-- The current block has become too large, or is long and hardly has any copies. -/
def isFull (c : Cutting) : Bool :=
  0xFFF8 < c.room || (31 * 1024 < c.size && c.size ≤ c.room * 115 / 128)

def block (c : Cutting) : Block :=
  ⟨c.pieces.reverse, c.start, c.size, c.position - c.start ≤ c.kept⟩

def close (c : Cutting) : Cutting :=
  { c with
    pieces := [], byteCount := 0, copyCount := 0
    start := c.start + c.size, size := 0
    blocks := c.block :: c.blocks }

def longCopy : Nat := 128

/-- Takes a copy that was found, at once if it is long, and otherwise puts it off; and how many bytes
that goes on. -/
def take (c : Cutting) (copy : Copy) : Cutting × Nat :=
  if longCopy ≤ copy.length then ({ c.putCopy copy with held := none }, copy.length)
  else ({ c with held := some copy }, 1)

def cut (t : Indexed) (c : Cutting) : Cutting × Nat :=
  let byte (i : Nat) := t.data[i]?.getD 0
  match c.held with
  | none =>
    match t.longer? c.position 2 with
    | none => (c.putByte (byte c.position), 1)
    | some copy => c.take copy
  | some held =>
    match t.longer? c.position held.length with
    | none => ({ c.putCopy held with held := none }, held.length - 1)
    | some copy => (c.putByte (byte (c.position - 1))).take copy

def step (t : Indexed) (c : Cutting) : Cutting :=
  let (next, count) := c.cut t
  let next := { next with
    position := c.position + count
    kept := min windowSize (t.reach c.position + count) }
  if next.isFull then next.close else next

def run (t : Indexed) : Nat → Cutting → Cutting
  | 0, c => c
  | fuel + 1, c => if c.position < t.data.size then run t fuel (c.step t) else c

end Cutting

/-- The blocks of a text.  Every step goes on by at least one byte, so there is always enough fuel. -/
def blocksOf (data : Array UInt8) : List Block :=
  let t := Indexed.ofData data
  let c := Cutting.empty.run t data.size
  (c.block :: c.blocks).reverse

end ImsiPseudonym.Gzip
