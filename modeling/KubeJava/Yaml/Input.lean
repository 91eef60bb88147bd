import KubeJava.Text.Utf8
import KubeJava.Yaml.Problem

set_option autoImplicit false

/-! # Input

The characters of a file as far as they can be read. Bytes are decoded in chunks and characters are
handed out in blocks, so what is wrong with a block stands behind all blocks before it: it shows
only when a reader comes that far. Every line end becomes a line feed. -/

namespace KubeJava.Yaml

/-- The characters that can be read, and the problem behind them if they are not all. -/
structure Input where
  chars : List Char
  behind : Option Problem := none

namespace Input

/-- Characters that may occur in YAML text at all. -/
def isAllowed (c : Char) : Bool :=
  let n := c.toNat
  n == 0x9 || n == 0xa || n == 0xd || (0x20 ≤ n && n ≤ 0x7e) || n == 0x85 ||
    (0xa0 ≤ n && n ≤ 0xfffd) || 0x10000 ≤ n

/-- The text with every line end made a line feed. -/
def uniformLineEnds : List Char → List Char
  | '\r' :: '\n' :: rest => '\n' :: uniformLineEnds rest
  | '\r' :: rest => '\n' :: uniformLineEnds rest
  | c :: rest => c :: uniformLineEnds rest
  | [] => []

/-! ## Chunks -/

/-- A file that is being decoded. -/
structure Decoder where
  bytes : List UInt8
  unfinished : Option Text.Utf8.Unfinished := none
  /-- Whether a carriage return waits for the character after it. -/
  heldReturn : Bool := false
  /-- Characters that are decoded but not handed out. -/
  ready : List Char := []
  /-- The numbers of bytes and of characters in the last chunk. -/
  chunkBytes : Nat := 0
  chunkChars : Nat := 0

namespace Decoder

/-- The number of bytes to read for a number of characters, by the width of those before. -/
def chunkSize (d : Decoder) (wanted : Nat) : Nat :=
  max 8192 (max wanted (d.chunkBytes * wanted / d.chunkChars))

/-- Decodes one more chunk; the one after the last byte is empty and ends the text. -/
def readChunk (d : Decoder) (wanted : Nat) : Except Problem Decoder :=
  let size := d.chunkSize wanted
  let bytes := d.bytes.take size
  let final := bytes.isEmpty
  match Text.Utf8.decodePiece d.unfinished bytes with
  | none => .error .noText
  | some (decoded, unfinished) =>
    if final && unfinished.isSome then .error .noText
    else
      let all := if d.heldReturn && (final || !decoded.isEmpty) then '\r' :: decoded else decoded
      let held : Bool := !final && all.getLast? = some '\r'
      let chars := uniformLineEnds (if held then all.dropLast else all)
      .ok
        { bytes := d.bytes.drop size
          unfinished
          heldReturn := held || (d.heldReturn && all.isEmpty)
          ready := d.ready ++ chars
          chunkBytes := bytes.length
          chunkChars := chars.length }

/-- Whether nothing is left to decode. -/
def isDone (d : Decoder) : Bool := d.bytes.isEmpty && d.unfinished.isNone && !d.heldReturn

/-- Decodes until a number of characters is ready or the text ends, in at most `fuel` chunks. -/
def fill (wanted : Nat) : (fuel : Nat) → Decoder → Except Problem Decoder
  | 0, d => .ok d
  | fuel + 1, d =>
    let count := d.ready.length
    if wanted ≤ count || d.isDone then .ok d
    else do fill wanted fuel (← d.readChunk (wanted - count))

/-! ## Blocks -/

def blockSize : Nat := 4096

/-- The next block of characters; it is empty only at the end of the text. -/
def readBlock (d : Decoder) : Except Problem (List Char × Decoder) := do
  let d ← d.fill blockSize (d.bytes.length + 2)
  return (d.ready.take blockSize, { d with ready := d.ready.drop blockSize })

end Decoder

/-- The characters of the blocks from here on, at most `fuel` of them. -/
def blocks : (fuel : Nat) → Decoder → Input
  | 0, _ => { chars := [] }
  | fuel + 1, d =>
    match d.readBlock with
    | .error p => { chars := [], behind := some p }
    | .ok ([], _) => { chars := [] }
    | .ok (block, d) =>
      if block.all isAllowed then
        let rest := blocks fuel d
        { rest with chars := block ++ rest.chars }
      else { chars := [], behind := some .malformed }

/-- The input that bytes give. The first two blocks are read before their characters are checked. -/
def ofBytes (bytes : ByteArray) : Input :=
  let d : Decoder := { bytes := bytes.toList }
  match (do
    let (first, d) ← d.readBlock
    let (second, d) ← d.readBlock
    return (first ++ second, d) : Except Problem (List Char × Decoder)) with
  | .error p => { chars := [], behind := some p }
  | .ok (block, d) =>
    if block.all isAllowed then
      let rest := blocks (bytes.size + 1) d
      { rest with chars := block ++ rest.chars }
    else { chars := [], behind := some .malformed }

end Input

end KubeJava.Yaml
