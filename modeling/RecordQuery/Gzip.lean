import RecordQuery.Gzip.Checksum
import RecordQuery.Gzip.Delivery

/-!
# Gzip

A gzip file is a header, compressed blocks, and a trailer with the checksum and the number of the
bytes. A damaged file still yields the bytes that were handed over before the fault was met. Bytes
can also be packed, without compressing them.
-/

namespace RecordQuery.Gzip

/-- What is wrong with a gzip file. -/
inductive Fault where
  | notGzip
  | endsEarly
  | malformed
  | wrongChecksum
  deriving DecidableEq

def Fault.message : Fault → String
  | .notGzip => "invalid gzip header"
  | .endsEarly => "unexpected end of file"
  | .malformed => "corrupt deflate stream"
  | .wrongChecksum => "corrupt gzip stream does not have a matching checksum"

/-- The bytes that a file yields and the fault that ends them, where it is not their end. -/
structure Unpacked where
  bytes : List UInt8
  fault : Option Fault

/-! ## Headers -/

/-- The bytes behind a count of bytes. -/
def skipBytes (count : Nat) (bytes : List UInt8) : Except Fault (List UInt8) :=
  if bytes.length < count then .error .endsEarly else .ok (bytes.drop count)

/-- The greatest number of bytes in a text of the header. -/
def maxText : Nat := 0xffff

/-- The bytes behind a text that ends in a zero. -/
def skipText (bytes : List UInt8) : Except Fault (List UInt8) :=
  if maxText < (bytes.takeWhile (· != 0)).length then .error .notGzip
  else skipBytes 1 (bytes.dropWhile (· != 0))

/-- The number that bytes spell, the lowest byte first. -/
def littleEndian (bytes : List UInt8) : Nat :=
  bytes.foldr (fun byte number => byte.toNat + 256 * number) 0

/-- The bytes behind the header. -/
def skipHeader (bytes : List UInt8) : Except Fault (List UInt8) := do
  let rest ← skipBytes 10 bytes
  let flags := (bytes.getD 3 0).toNat
  if bytes.take 3 != [0x1f, 0x8b, 8] || 32 ≤ flags then throw .notGzip
  let rest ←
    if flags.testBit 2 then do
      let behind ← skipBytes 2 rest
      skipBytes (littleEndian (rest.take 2)) behind
    else pure rest
  let rest ← if flags.testBit 3 then skipText rest else pure rest
  let rest ← if flags.testBit 4 then skipText rest else pure rest
  if flags.testBit 1 then do
    let header := bytes.take (bytes.length - rest.length)
    let behind ← skipBytes 2 rest
    if littleEndian (rest.take 2) == (checksum header).toNat % 0x10000 then return behind
    else throw .wrongChecksum
  else return rest

/-! ## Unpacking and packing -/

/-- Bytes with what the trailer says about them. -/
def checkTrailer (bytes trailer : List UInt8) : Unpacked :=
  if trailer.length < 8 then ⟨bytes, some .endsEarly⟩
  else if littleEndian (trailer.take 4) == (checksum bytes).toNat &&
      littleEndian ((trailer.drop 4).take 4) == bytes.length % 0x100000000 then ⟨bytes, none⟩
  else ⟨bytes, some .wrongChecksum⟩

def Stop.fault : Stop → Fault
  | .endsEarly => .endsEarly
  | .malformed => .malformed

/-- Unpacks a gzip file. What follows the trailer does not count. -/
def unpack (file : List UInt8) : Unpacked :=
  match skipHeader file with
  | .error fault => ⟨[], some fault⟩
  | .ok body =>
      let bits := Bits.ofBytes body
      let inflated := inflate .empty bits
      let bytes := inflated.output.bytes.toList
      match inflated.ending with
      | .ok rest => checkTrailer bytes (body.drop (body.length - rest.left / 8))
      | .error stop =>
          let handedOver :=
            Delivery.beforeStop (8 * file.length) bits.left inflated.output.pieces stop
          ⟨bytes.take handedOver, some stop.fault⟩

/-- A number as so many bytes, the lowest first. -/
def littleEndianBytes : (count : Nat) → Nat → List UInt8
  | 0, _ => []
  | count + 1, number => number.toUInt8 :: littleEndianBytes count (number / 256)

/-- The greatest number of bytes in a block of bytes as they are. -/
def maxStored : Nat := 0xffff

/-- Blocks of bytes as they are. -/
def store (bytes : List UInt8) : List UInt8 :=
  let size := min bytes.length maxStored
  let header := littleEndianBytes 2 size ++ littleEndianBytes 2 (maxStored - size)
  if bytes.length ≤ maxStored then 1 :: header ++ bytes
  else 0 :: header ++ bytes.take maxStored ++ store (bytes.drop maxStored)
termination_by bytes.length
decreasing_by
  simp only [List.length_drop, maxStored] at *
  omega

/-- A gzip file that holds some bytes. -/
def pack (bytes : List UInt8) : List UInt8 :=
  [0x1f, 0x8b, 8, 0, 0, 0, 0, 0, 0, 255] ++ store bytes ++
    littleEndianBytes 4 (checksum bytes).toNat ++ littleEndianBytes 4 bytes.length

end RecordQuery.Gzip
