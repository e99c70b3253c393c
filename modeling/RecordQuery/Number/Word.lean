import RecordQuery.Number.Double

/-!
# Whole numbers of 64 bits

Data may hold any whole number that a signed or an unsigned word of 64 bits can hold. The bounds
travel with the number, so nothing after decoding has to ask for them again.
-/

namespace RecordQuery

/-- A whole number that some word of 64 bits, signed or unsigned, can hold. -/
structure WordInt where
  val : Int
  lower : -0x8000000000000000 ≤ val
  upper : val < 0x10000000000000000
  deriving DecidableEq

namespace WordInt

def ofInt? (n : Int) : Option WordInt :=
  if h : -0x8000000000000000 ≤ n ∧ n < 0x10000000000000000 then some ⟨n, h.1, h.2⟩ else none

def ofInt64 (n : Int64) : WordInt :=
  ⟨n.toInt, Int64.le_toInt n, by have := Int64.toInt_lt n; omega⟩

def zero : WordInt := ⟨0, by decide, by decide⟩

instance : Inhabited WordInt := ⟨zero⟩

/-- The number if a signed word can hold it. -/
def signed? (n : WordInt) : Option Int64 :=
  if n.val < 0x8000000000000000 then some (Int64.ofInt n.val) else none

theorem natAbs_lt (n : WordInt) : n.val.natAbs < 0x10000000000000000 := by
  have := n.lower
  have := n.upper
  omega

/-- The nearest double. -/
def toDouble (n : WordInt) : Double :=
  Double.ofNat (n.val < 0) n.val.natAbs n.natAbs_lt

theorem ofInt?_val (n : WordInt) : ofInt? n.val = some n := by
  unfold ofInt?
  rw [dif_pos ⟨n.lower, n.upper⟩]

theorem ofInt64_val (n : Int64) : (ofInt64 n).val = n.toInt := rfl

theorem ofInt?_eq_some {n : Int} {w : WordInt} (h : ofInt? n = some w) : w.val = n := by
  unfold ofInt? at h
  split at h
  · cases h
    rfl
  · cases h

end WordInt

end RecordQuery
