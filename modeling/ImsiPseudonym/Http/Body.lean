import ImsiPseudonym.Http.Head
import ImsiPseudonym.Text.Pieces

/-!
The body of an HTTP response.  The head says where it ends: after a number of bytes, after the last of a
row of chunks that each bring their length, or where the connection is closed.
-/
namespace ImsiPseudonym.Http

open Text

inductive Framing where
  | absent
  | sized (length : Nat)
  | chunked
  /-- It ends where the connection is closed. -/
  | untilClosed
deriving DecidableEq, Repr

def maxBodyLength : Nat := 0xFFFFFFFFFFFFFFFD

/-- The length that all values announce; each may announce it several times, between commas. -/
def announcedLength? (values : List (List UInt8)) : Option Nat :=
  let announced := (values.flatMap (pieces ',' ∘ charsOf)).map fun chars =>
    Decimal.readNat? (charsOf (trimGaps (chars.map fun c => UInt8.ofNat c.toNat)))
  match announced with
  | some length :: others =>
    if others.all (· = some length) ∧ length ≤ maxBodyLength then some length else none
  | _ => none

def endsInChunked (values : List Field) : Bool :=
  match values.getLast?.bind Field.text? with
  | none => false
  | some text =>
    let last := ((pieces ',' text.toList).getLast?.getD []).map fun c => UInt8.ofNat c.toNat
    String.ofList ((charsOf (trimGaps last)).map Char.toLower) = "chunked"

namespace Head

def isBodiless (h : Head) : Bool :=
  h.status = statusSwitching || h.status = 204 || h.status = 304

/-- How the end of the body is found; none if the head does not allow to tell.  An encoding for the
transfer counts before a length, and is not known to the earlier version. -/
def framing? (h : Head) : Option Framing :=
  let encodings := h.values "transfer-encoding"
  let lengths := h.values "content-length"
  if h.isBodiless then some .absent
  else if encodings ≠ [] then
    if h.minor = 0 then none else if endsInChunked encodings then some .chunked else some .untilClosed
  else if lengths ≠ [] then (announcedLength? (lengths.map Field.value)).map .sized
  else some .untilClosed

end Head

def hexValue? (b : UInt8) : Option Nat :=
  let c := Char.ofNat b.toNat
  if c.isDigit then some (c.toNat - '0'.toNat)
  else if 'a' ≤ c.toLower ∧ c.toLower ≤ 'f' then some (c.toLower.toNat - 'a'.toNat + 10)
  else none

def ofHexDigits (digits : List UInt8) : Nat :=
  digits.foldl (fun n b => 16 * n + (hexValue? b).getD 0) 0

def semicolon : UInt8 := 0x3B

def maxChunkLength : Nat := 0xFFFFFFFFFFFFFFFF

/-- The length of a chunk and the size of the extension behind it, from the line before the chunk:
digits, gaps, and perhaps a semicolon and an extension. -/
def chunkLength? (line : List UInt8) : Option (Nat × Nat) :=
  let (digits, rest) := line.span fun b => (hexValue? b).isSome
  let length := ofHexDigits digits
  if digits = [] ∨ maxChunkLength < length then none
  else
    match rest.dropWhile isGap with
    | [] => some (length, 0)
    | b :: extension => if b = semicolon then some (length, extension.length) else none

def readChunkLine? (bytes : List UInt8) : Option (List UInt8 × List UInt8) :=
  match bytes.span fun b => b ≠ carriageReturn ∧ b ≠ lineFeed with
  | (line, 0x0D :: 0x0A :: rest) => some (line, rest)
  | _ => none

/-- Reads lines up to an empty one.  They end in a carriage return, which a line feed follows. -/
def readTrailerLines : Nat → List UInt8 → Option (List (List UInt8))
  | 0, _ => none
  | fuel + 1, bytes =>
    match bytes.span (· ≠ carriageReturn) with
    | ([], 0x0D :: 0x0A :: _) => some []
    | (line, 0x0D :: 0x0A :: rest) => (readTrailerLines fuel rest).map (line :: ·)
    | _ => none

/-- The size that the lines behind the last chunk do not reach, and that all extensions together do not
reach. -/
def marginLimit : Nat := 0x4000

/-- The lines behind the last chunk are fields, fewer than a head may have, and not too large. -/
def areTrailers (lines : List (List UInt8)) : Bool :=
  let ending := [carriageReturn, lineFeed]
  let bytes := lines.flatMap (· ++ ending) ++ ending
  lines.isEmpty ||
    (lines.length < maxFields && bytes.length < marginLimit && (readFields lines.length bytes).isSome)

/-- Reads chunks up to an empty one and the fields behind it, where the extensions before have had some
size.  Every chunk has at least one byte, so there is enough fuel if there is as much as bytes. -/
def readChunks : Nat → Nat → List UInt8 → Option (List (List UInt8))
  | 0, _, _ => none
  | fuel + 1, extensions, bytes => do
    let (line, rest) ← readChunkLine? bytes
    let (length, extension) ← chunkLength? line
    let extensions := extensions + extension
    if marginLimit ≤ extensions then none
    else if length = 0 then
      let lines ← readTrailerLines (rest.length + 1) rest
      if areTrailers lines then return [] else none
    else
      let (chunk, after) := rest.splitAt length
      match after with
      | 0x0D :: 0x0A :: rest => return chunk :: (← readChunks fuel extensions rest)
      | _ => none

/-- The pieces in which a body comes out of the bytes behind its head; none if it is broken or not
complete. -/
def Framing.pieces? (bytes : List UInt8) : Framing → Option (List (List UInt8))
  | .absent => some []
  | .sized length =>
    let body := bytes.take length
    if body.length = length then some [body] else none
  | .chunked => readChunks bytes.length 0 bytes
  | .untilClosed => some [bytes]

end ImsiPseudonym.Http
