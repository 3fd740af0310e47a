import ImsiPseudonym.Gzip.Piece
import ImsiPseudonym.Gzip.PrefixCode

/-!
Reading compressed data.  It is a sequence of blocks: bytes that stand for themselves, or symbols in a
prefix code, which is either the fixed one or written at the start of the block.
-/
namespace ImsiPseudonym.Gzip

/-- Reads the number that the symbol of its row begins. -/
def Rows.readNumber (rows : Rows) (index : Nat) : BitReader Nat :=
  match rows[index]? with
  | none => failure
  | some (least, width) => do
    let more ← readBits width
    pure (least + more)

/-- Reads symbols up to the end of the block, at most as many as there is fuel. -/
def readPieces (symbols distances : SymbolCode) : Nat → Array UInt8 → BitReader (Array UInt8)
  | 0, _ => failure
  | fuel + 1, out => do
    let symbol ← symbols.read
    if symbol < endOfBlock then
      readPieces symbols distances fuel (Piece.appendTo out (.byte (UInt8.ofNat symbol)))
    else if symbol = endOfBlock then pure out
    else
      let length ← lengthRows.readNumber (symbol - firstLength)
      let distance ← distanceRows.readNumber (← distances.read)
      readPieces symbols distances fuel (Piece.appendTo out (.copy length distance))

def readBytes : Nat → Array UInt8 → BitReader (Array UInt8)
  | 0, out => pure out
  | count + 1, out => do
    let byte ← readBits 8
    readBytes count (out.push (UInt8.ofNat byte))

/-- A block of bytes that stand for themselves: their number, its complement, and the bytes. -/
def readStored (out : Array UInt8) : BitReader (Array UInt8) := do
  skipToByte
  let count ← readBits 16
  let complement ← readBits 16
  if count + complement = 0xFFFF then readBytes count out else failure

def readThreeBits : Nat → BitReader (List Nat)
  | 0 => pure []
  | count + 1 => do
    let n ← readBits 3
    let rest ← readThreeBits count
    pure (n :: rest)

/-- Reads word lengths until there are as many as wanted.  They are collected in reverse, and may be
written as repetitions of the last one or of zero. -/
def readWordLengths (code : SymbolCode) (wanted : Nat) : Nat → List Nat → BitReader (List Nat)
  | fuel, lengths =>
    if wanted ≤ lengths.length then
      if lengths.length = wanted then pure lengths.reverse else failure
    else
      match fuel with
      | 0 => failure
      | fuel + 1 => do
        match ← code.read with
        | 16 =>
          match lengths with
          | [] => failure
          | last :: _ =>
            let more ← readBits 2
            readWordLengths code wanted fuel (List.replicate (3 + more) last ++ lengths)
        | 17 =>
          let more ← readBits 3
          readWordLengths code wanted fuel (List.replicate (3 + more) 0 ++ lengths)
        | 18 =>
          let more ← readBits 7
          readWordLengths code wanted fuel (List.replicate (11 + more) 0 ++ lengths)
        | length => readWordLengths code wanted fuel (length :: lengths)

def readCodes : BitReader (SymbolCode × SymbolCode) := do
  let symbolCount := (← readBits 5) + 257
  let distanceCount := (← readBits 5) + 1
  let lengthCount := (← readBits 4) + 4
  if 286 < symbolCount ∨ 30 < distanceCount then failure
  let written := lengthOrder.zip (← readThreeBits lengthCount)
  let ordered := (List.range 19).map fun symbol => (written.lookup symbol).getD 0
  let wanted := symbolCount + distanceCount
  let code ← liftM (SymbolCode.ofCompleteLengths? ordered)
  let lengths ← readWordLengths code wanted wanted []
  let symbols ← liftM (SymbolCode.ofLengths? (lengths.take symbolCount))
  let distances ← liftM (SymbolCode.ofLengths? (lengths.drop symbolCount))
  pure (symbols, distances)

def readBlocks : Nat → Array UInt8 → BitReader (Array UInt8)
  | 0, _ => failure
  | fuel + 1, out => do
    let last ← readBit
    let out ← match ← readBits 2 with
      | 0 => readStored out
      | 1 => readPieces (.ofLengths fixedLengths) (.ofLengths fixedDistanceLengths) (fuel + 1) out
      | 2 =>
        let (symbols, distances) ← readCodes
        readPieces symbols distances (fuel + 1) out
      | _ => failure
    if last then pure out else readBlocks fuel out

/-- Reads compressed data and gives the bytes that follow it.  Every symbol takes at least one bit,
so there is always enough fuel. -/
def inflate? (bytes : List UInt8) : Option (List UInt8 × List UInt8) :=
  let bits := unpack bytes
  (readBlocks bits.length #[] bits).map fun (out, rest) =>
    (out.toList, bytes.drop (bytes.length - rest.length / 8))

end ImsiPseudonym.Gzip
