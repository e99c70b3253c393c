import RecordQuery.Gzip.Code

/-!
# Compressed blocks

Compressed data is a sequence of blocks: bytes as they are, or words of two codes for single bytes
and for copies of earlier bytes. The codes are fixed or stand in front of the block. In front of
the first byte there are zeros, as far as a copy can reach.
-/

namespace RecordQuery.Gzip

/-- Bytes that were found at once. So many bits were unread while they waited for their place, and
so many are left behind them. -/
structure Piece where
  count : Nat
  waiting : Nat
  left : Nat

/-- The bytes found so far, and the pieces in which they were found. -/
structure Output where
  bytes : Array UInt8
  pieces : Array Piece

def Output.empty : Output := ⟨#[], #[]⟩

/-- Adds one byte, of a word or as it is. -/
def Output.push (output : Output) (byte : UInt8) (waiting left : Nat) : Output :=
  ⟨output.bytes.push byte, output.pieces.push ⟨1, waiting, left⟩⟩

/-- Reading that stopped, with the output up to there. -/
structure Stopped where
  reason : Stop
  output : Output

/-! ## Copies -/

/-- The least length of the copy that a symbol stands for, and the number of bits that add to
it. -/
def copyLengths : List (Nat × Nat) :=
  [(3, 0), (4, 0), (5, 0), (6, 0), (7, 0), (8, 0), (9, 0), (10, 0), (11, 1), (13, 1), (15, 1),
    (17, 1), (19, 2), (23, 2), (27, 2), (31, 2), (35, 3), (43, 3), (51, 3), (59, 3), (67, 4),
    (83, 4), (99, 4), (115, 4), (131, 5), (163, 5), (195, 5), (227, 5), (258, 0)]

/-- The least distance that a symbol stands for, and the number of bits that add to it. -/
def copyDistances : List (Nat × Nat) :=
  [(1, 0), (2, 0), (3, 0), (4, 0), (5, 1), (7, 1), (9, 2), (13, 2), (17, 3), (25, 3), (33, 4),
    (49, 4), (65, 5), (97, 5), (129, 6), (193, 6), (257, 7), (385, 7), (513, 8), (769, 8),
    (1025, 9), (1537, 9), (2049, 10), (3073, 10), (4097, 11), (6145, 11), (8193, 12), (12289, 12),
    (16385, 13), (24577, 13)]

/-- Appends bytes that lie a distance back; the copy may run into itself. -/
def copyBack (bytes : Array UInt8) (distance : Nat) : (length : Nat) → Array UInt8
  | 0 => bytes
  | length + 1 =>
      let byte := if distance ≤ bytes.size then bytes.getD (bytes.size - distance) 0 else 0
      copyBack (bytes.push byte) distance length

/-- Adds a copy of earlier bytes. -/
def Output.copy (output : Output) (distance length left : Nat) : Output :=
  ⟨copyBack output.bytes distance length, output.pieces.push ⟨length, left, left⟩⟩

variable {before : Bits}

/-- The value of a symbol in a table, with its additional bits. -/
def addedValue (table : List (Nat × Nat)) (symbol : Read Nat before) :
    Except Stop (Read Nat before) :=
  match table[symbol.value]? with
  | none => .error .malformed
  | some (least, count) => do
      let found ← symbol.number count
      return found.map fun (_, added) => least + added

/-- What the words of a block stand for. -/
inductive Word where
  | byte (value : UInt8)
  | copy (length distance : Nat)
  | blockEnd

/-- One word of a block. -/
def readWord (literals distances : Code) (before : Bits) : Except Stop (Read Word before) := do
  let symbol ← literals.decode 0 before
  if symbol.value < 256 then return symbol.map fun value => .byte value.toUInt8
  else if symbol.value == 256 then return symbol.map fun _ => .blockEnd
  else
    let length ← addedValue copyLengths (symbol.map (· - 257))
    let distance ← addedValue copyDistances (← distances.decode 0 length.rest)
    return (distance.map fun distance => .copy length.value distance).since
      (Nat.le_of_lt length.fewer)

/-! ## Blocks -/

/-- The bytes of a block of code words, up to the word that ends it. -/
def readWords (literals distances : Code) (output : Output) (before : Bits) :
    Except Stopped (Read Output before) :=
  match readWord literals distances before with
  | .error stop => .error ⟨stop, output⟩
  | .ok word =>
      have fewer : word.rest.left < before.left := word.fewer
      let left := word.rest.left
      match word.value with
      | .blockEnd => .ok (word.map fun _ => output)
      | .byte value => do
          let more ← readWords literals distances (output.push value left left) word.rest
          return more.since (Nat.le_of_lt fewer)
      | .copy length distance => do
          let more ← readWords literals distances (output.copy distance length left) word.rest
          return more.since (Nat.le_of_lt fewer)
termination_by before.left

/-- The codes of blocks that bring none of their own. -/
def fixedLiterals : Code :=
  Code.ofLengths (List.replicate 144 8 ++ List.replicate 112 9 ++ List.replicate 24 7 ++
    List.replicate 8 8)

def fixedDistances : Code :=
  Code.ofLengths (List.replicate 30 5)

/-- The order in which the lengths of the code for lengths are given. -/
def lengthOrder : List Nat :=
  [16, 17, 18, 0, 8, 7, 9, 6, 10, 5, 11, 4, 12, 3, 13, 2, 14, 1, 15]

/-- Lengths of three bits each. -/
def readShortLengths : (count : Nat) → Read (List Nat) before →
    Except Stop (Read (List Nat) before)
  | 0, read => .ok read
  | count + 1, read => do
      let found ← read.number 3
      readShortLengths count (found.map fun (lengths, length) => lengths ++ [length])

/-- At least `count` lengths, behind those found before. A symbol is a length, or repeats the last
length or zero. -/
def readLengths (code : Code) (count : Nat) (found : List Nat) (before : Bits) :
    Except Stop (Read (List Nat) before) :=
  match code.decode 0 before with
  | .error stop => .error stop
  | .ok symbol =>
      let repeated : Option (Nat × Nat × Nat) :=
        match symbol.value with
        | 16 => found.getLast?.map fun last => (last, 3, 2)
        | 17 => some (0, 3, 3)
        | 18 => some (0, 11, 7)
        | length => some (length, 1, 0)
      match repeated with
      | none => .error .malformed
      | some (length, least, added) =>
          match symbol.number added with
          | .error stop => .error stop
          | .ok more =>
              have fewer : more.rest.left < before.left := more.fewer
              let lengths := found ++ List.replicate (least + more.value.2) length
              if lengths.length < count then do
                let all ← readLengths code count lengths more.rest
                return all.since (Nat.le_of_lt fewer)
              else .ok (more.map fun _ => lengths)
termination_by before.left

/-- The codes in front of a block. -/
def readCodes (start : Read Unit before) : Except Stop (Read (Code × Code) before) := do
  let literalCount ← start.number 5
  let distanceCount ← literalCount.number 5
  let lengthCount ← distanceCount.number 4
  let (((_, literals), distances), lengths) := lengthCount.value
  if 29 < literals || 29 < distances then throw .malformed
  let short ← readShortLengths (lengths + 4) (lengthCount.map fun _ => [])
  let lengthCode := Code.ofLengths ((List.range 19).map fun symbol =>
    ((lengthOrder.zip short.value).lookup symbol).getD 0)
  if !lengthCode.isComplete then throw .malformed
  let count := literals + 257 + (distances + 1)
  let all ← readLengths lengthCode count [] short.rest
  if all.value.length ≠ count then throw .malformed
  let literalCode := Code.ofLengths (all.value.take (literals + 257))
  let distanceCode := Code.ofLengths (all.value.drop (literals + 257))
  if !literalCode.isUsable || !distanceCode.isUsable then throw .malformed
  return (all.map fun _ => (literalCode, distanceCode)).since (Nat.le_of_lt short.fewer)

/-- Bytes as they are, behind something else that was read. -/
def readBytes {α : Type} : (count : Nat) → Read (α × Output) before →
    Except Stopped (Read (α × Output) before)
  | 0, read => .ok read
  | count + 1, read =>
      match read.number 8 with
      | .error stop => .error ⟨stop, read.value.2⟩
      | .ok byte =>
          let left := byte.rest.left
          readBytes count (byte.map fun ((value, output), byte) =>
            (value, output.push byte.toUInt8 read.rest.left left))

/-- A block of bytes as they are: their number, its complement, and the bytes. -/
def readStored (output : Output) (start : Read Unit before) :
    Except Stopped (Read Output before) := do
  let header ← ((do (← start.number 16).number 16 : Except Stop _)).mapError (⟨·, output⟩)
  let ((_, count), complement) := header.value
  if count + complement ≠ 0xffff then throw ⟨.malformed, output⟩
  let bytes ← readBytes count (header.map fun _ => ((), output))
  return bytes.map (·.2)

/-- One block, and whether it is the last one. -/
def readBlock (output : Output) (before : Bits) : Except Stopped (Read (Bool × Output) before) := do
  let stopped {α : Type} (result : Except Stop α) : Except Stopped α :=
    result.mapError (⟨·, output⟩)
  let last ← stopped before.next
  let kind ← stopped (last.number 2)
  let start := kind.map fun _ => ()
  let found ←
    match kind.value.2 with
    | 0 =>
        let aligned := start.rest.align
        have le : aligned.left ≤ start.rest.left := Nat.sub_le _ _
        readStored output { start with rest := aligned, fewer := Nat.lt_of_le_of_lt le start.fewer }
    | 1 => do
        let words ← readWords fixedLiterals fixedDistances output start.rest
        pure (words.since (Nat.le_of_lt start.fewer))
    | 2 => do
        let codes ← stopped (readCodes start)
        let words ← readWords codes.value.1 codes.value.2 output codes.rest
        pure (words.since (Nat.le_of_lt codes.fewer))
    | _ => throw ⟨.malformed, output⟩
  return found.map fun output => (last.value, output)

/-- What compressed data holds: its bytes as far as they could be read, and the bits behind the
last block or what stopped the reading. -/
structure Inflated where
  output : Output
  ending : Except Stop Bits

/-- Reads all blocks up to the last one. -/
def inflate (output : Output) (before : Bits) : Inflated :=
  match readBlock output before with
  | .error stopped => ⟨stopped.output, .error stopped.reason⟩
  | .ok block =>
      have : block.rest.left < before.left := block.fewer
      if block.value.1 then ⟨block.value.2, .ok block.rest⟩
      else inflate block.value.2 block.rest
termination_by before.left

end RecordQuery.Gzip
