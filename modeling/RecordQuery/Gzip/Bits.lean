/-!
# Bits of a file

Compressed data is read bit by bit, the lowest bit of each byte first. The number of bits that are
left is kept beside them: readers that call one another end because it gets smaller.
-/

namespace RecordQuery.Gzip

/-- Why compressed data cannot be read on. -/
inductive Stop where
  | endsEarly
  | malformed
  deriving DecidableEq

/-- Bits that are still to be read, and their number. -/
structure Bits where
  left : Nat
  bits : List Bool

/-- What was read at the front of `before`, and the bits behind it, which are fewer. -/
structure Read (α : Type) (before : Bits) where
  value : α
  rest : Bits
  fewer : rest.left < before.left

namespace Read

variable {α β : Type} {before middle : Bits}

def map (f : α → β) (read : Read α before) : Read β before :=
  { read with value := f read.value }

/-- The same reading seen from a place that is not behind its start. -/
def since (read : Read α middle) (le : middle.left ≤ before.left) : Read α before :=
  { read with fewer := Nat.lt_of_lt_of_le read.fewer le }

end Read

namespace Bits

/-- The lowest bit of a byte first. -/
def ofByte (byte : UInt8) : List Bool :=
  (List.range 8).map fun place => byte.toNat.testBit place

def ofBytes (bytes : List UInt8) : Bits :=
  ⟨8 * bytes.length, bytes.flatMap ofByte⟩

/-- The bit in front. -/
def next : (before : Bits) → Except Stop (Read Bool before)
  | ⟨left + 1, bit :: rest⟩ => .ok ⟨bit, ⟨left, rest⟩, Nat.lt_succ_self left⟩
  | _ => .error .endsEarly

/-- The bits behind so many. -/
def skip (before : Bits) (count : Nat) : Bits :=
  ⟨before.left - count, before.bits.drop count⟩

/-- The bits from the next full byte on, in data that ends with a full byte. -/
def align (before : Bits) : Bits :=
  before.skip (before.left % 8)

end Bits

/-- The number that bits spell, the lowest bit first. -/
def spelled (bits : List Bool) : Nat :=
  bits.foldr (fun bit higher => bit.toNat + 2 * higher) 0

/-- A number of so many bits behind something else that was read, the lowest bit first. -/
def Read.number {α : Type} {before : Bits} (read : Read α before) (count : Nat) :
    Except Stop (Read (α × Nat) before) :=
  if read.rest.left < count then .error .endsEarly
  else .ok {
    value := (read.value, spelled (read.rest.bits.take count))
    rest := read.rest.skip count
    fewer := Nat.lt_of_le_of_lt (Nat.sub_le _ _) read.fewer }

end RecordQuery.Gzip
