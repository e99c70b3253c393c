import RecordQuery.Gzip.Bits

/-!
# Canonical codes

A canonical code gives every symbol a length in bits. Code words of one length are consecutive
numbers in the order of the symbols, and they follow the numbers that the shorter words leave. So
the lengths alone determine the code.
-/

namespace RecordQuery.Gzip

/-- The symbols of a code by the lengths of their words: those of one bit first. -/
abbrev Code := List (List Nat)

namespace Code

/-- The greatest length of a word. -/
def maxLength : Nat := 15

/-- The code in which the symbols `0`, `1`, … have the given lengths; a symbol of length zero has
no word. -/
def ofLengths (lengths : List Nat) : Code :=
  (List.range maxLength).map fun length =>
    (lengths.zipIdx.filter (·.1 == length + 1)).map (·.2)

/-- How many words of a length are still free if `free` were free before, or none where there are
more symbols than that. -/
def leave : (free : Nat) → Code → Option Nat
  | free, [] => some free
  | free, symbols :: longer =>
      if symbols.length ≤ 2 * free then leave (2 * free - symbols.length) longer else none

/-- Whether every sequence of bits starts with a word. -/
def isComplete (code : Code) : Bool :=
  code.leave 1 == some 0

/-- Whether a block may bring the code: it is complete, or has at most one word, of one bit. -/
def isUsable (code : Code) : Bool :=
  code.isComplete ||
    (code.drop 1).flatten.isEmpty && (code.headD []).length ≤ 1

/-- The symbol whose word stands in front. The number read so far is `skipped` more than the first
word of that length minus one bit. -/
def decode (skipped : Nat) : Code → (before : Bits) → Except Stop (Read Nat before)
  | [], _ => .error .malformed
  | symbols :: longer, before => do
      let bit ← before.next
      let number := 2 * skipped + bit.value.toNat
      match symbols[number]? with
      | some symbol => return bit.map fun _ => symbol
      | none =>
          if longer.flatten.isEmpty then throw .malformed
          else
            let found ← decode (number - symbols.length) longer bit.rest
            return found.since (Nat.le_of_lt bit.fewer)

end Code

end RecordQuery.Gzip
