/-!
# Numbers of the binary64 format

A finite double is kept as the whole number of *units* it holds, one unit being the smallest
positive double, `2 ^ -1074`. Arithmetic on doubles is exact arithmetic on units followed by one
rounding, so comparison and conversion are facts about whole numbers. The main statement here is
that rounding always yields the canonical spelling (`Double.rounded`).
-/

namespace RecordQuery

/-- A finite number of the binary64 format: `mantissa * 2 ^ shift` units, with a sign that zero
carries as well. The mantissa has 53 bits unless the number is subnormal, so every number has one
spelling. -/
structure Double where
  negative : Bool
  mantissa : Nat
  shift : Nat
  mantissa_lt : mantissa < 0x20000000000000
  normal : 0x10000000000000 ≤ mantissa ∨ shift = 0
  shift_le : shift ≤ 2045
  deriving DecidableEq

namespace Double

/-- One is this power of two in units. -/
def unitBits : Nat := 1074

/-- How many units make one. -/
def unitsPerOne : Nat := Nat.pow 2 unitBits

def zero : Double := ⟨false, 0, 0, by decide, by decide, by decide⟩

instance : Inhabited Double := ⟨zero⟩

/-- The number of units without the sign. -/
def magnitude (x : Double) : Nat := x.mantissa * Nat.pow 2 x.shift

/-- The value, counted in units. Both zeros have none. -/
def units (x : Double) : Int :=
  if x.negative then -(x.magnitude : Int) else x.magnitude

/-- The order of the values; the two zeros are equal. -/
def order (x y : Double) : Ordering := compare x.units y.units

def isZero (x : Double) : Bool := x.mantissa == 0

def negate (x : Double) : Double := { x with negative := !x.negative }

/-- A quotient rounded to the nearest whole number, a half going to the even neighbour. -/
def divideToEven (num den : Nat) : Nat :=
  let quotient := num / den
  let twice := 2 * (num % den)
  if twice < den then quotient
  else if den < twice then quotient + 1
  else quotient + quotient % 2

theorem div_le_divideToEven (num den : Nat) : num / den ≤ divideToEven num den := by
  unfold divideToEven
  simp only
  split
  · exact Nat.le_refl _
  · split <;> omega

theorem divideToEven_le (num den : Nat) : divideToEven num den ≤ num / den + 1 := by
  unfold divideToEven
  simp only
  split
  · exact Nat.le_succ _
  · split <;> omega

/-- The shift that leaves 53 bits of a number of units, or none if it has fewer. -/
def shiftFor (units : Nat) : Nat := units.log2 - 52

theorem shifted_lt (n : Nat) : n / Nat.pow 2 (shiftFor n) < 0x20000000000000 := by
  rw [show 0x20000000000000 = 2 ^ 53 from rfl, Nat.pow_eq]
  rw [Nat.div_lt_iff_lt_mul (Nat.two_pow_pos _), ← Nat.pow_add]
  have bound : n < 2 ^ (n.log2 + 1) := Nat.lt_log2_self
  exact Nat.lt_of_lt_of_le bound (Nat.pow_le_pow_right (by decide) (by unfold shiftFor; omega))

theorem le_shifted (n : Nat) : 0x10000000000000 ≤ n / Nat.pow 2 (shiftFor n) ∨ shiftFor n = 0 := by
  rw [show 0x10000000000000 = 2 ^ 52 from rfl, Nat.pow_eq]
  by_cases short : n.log2 ≤ 52
  · exact Or.inr (by unfold shiftFor; omega)
  · left
    have nonzero : n ≠ 0 := by
      intro h
      subst h
      exact short (by decide)
    rw [Nat.le_div_iff_mul_le (Nat.two_pow_pos _), ← Nat.pow_add]
    have : 52 + shiftFor n = n.log2 := by unfold shiftFor; omega
    rw [this]
    exact Nat.log2_self_le nonzero

/-- A mantissa and a shift that spell a number of units canonically. -/
structure Spelling where
  mantissa : Nat
  shift : Nat
  mantissa_lt : mantissa < 0x20000000000000
  normal : 0x10000000000000 ≤ mantissa ∨ shift = 0

/-- The double of a spelling inside the range of the format. -/
def Spelling.toDouble (spelling : Spelling) (negative : Bool) (fits : spelling.shift ≤ 2045) :
    Double :=
  ⟨negative, spelling.mantissa, spelling.shift, spelling.mantissa_lt, spelling.normal, fits⟩

/-- The canonical spelling nearest to `num / den` units, ties going to the even mantissa. -/
def rounded (num den : Nat) : Spelling :=
  let shift := shiftFor (num / den)
  let mantissa := divideToEven num (den * Nat.pow 2 shift)
  have exact_lt : num / (den * Nat.pow 2 shift) < 0x20000000000000 := by
    rw [← Nat.div_div_eq_div_mul]
    exact shifted_lt _
  have above : mantissa ≤ 0x20000000000000 :=
    Nat.le_trans (divideToEven_le _ _) exact_lt
  have below : 0x10000000000000 ≤ mantissa ∨ shift = 0 := by
    rcases le_shifted (num / den) with h | h
    · left
      rw [Nat.div_div_eq_div_mul] at h
      exact Nat.le_trans h (div_le_divideToEven _ _)
    · exact Or.inr h
  if carried : mantissa = 0x20000000000000 then
    ⟨0x10000000000000, shift + 1, by decide, Or.inl (Nat.le_refl _)⟩
  else
    ⟨mantissa, shift, Nat.lt_of_le_of_ne above carried, below⟩

theorem rounded_shift_le (num den : Nat) :
    (rounded num den).shift ≤ shiftFor (num / den) + 1 := by
  unfold rounded
  dsimp only
  split <;> simp

/-- The double nearest to `num / den` units, or none if that exceeds every finite double. -/
def ofUnits? (negative : Bool) (num den : Nat) : Option Double :=
  if fits : (rounded num den).shift ≤ 2045 then
    some ((rounded num den).toDouble negative fits)
  else none

theorem log2_mul_pow_le {n size : Nat} (bits : Nat) (small : n < Nat.pow 2 size) :
    (n * Nat.pow 2 bits).log2 ≤ size + bits := by
  rw [Nat.pow_eq] at small ⊢
  by_cases zero : n * 2 ^ bits = 0
  · simp [zero]
  · refine Nat.le_of_lt ((Nat.log2_lt zero).2 ?_)
    rw [Nat.pow_add]
    exact Nat.mul_lt_mul_of_pos_right small (Nat.two_pow_pos bits)

/-- Whole numbers of up to 64 bits lie well inside the range of the format. -/
theorem shift_of_word {n : Nat} (small : n < 0x10000000000000000) :
    (rounded (n * unitsPerOne) 1).shift ≤ 2045 := by
  refine Nat.le_trans (rounded_shift_le _ _) ?_
  rw [Nat.div_one]
  have log : (n * unitsPerOne).log2 ≤ 64 + unitBits := by
    unfold unitsPerOne
    exact log2_mul_pow_le unitBits (show n < Nat.pow 2 64 from small)
  have bits : unitBits = 1074 := rfl
  unfold shiftFor
  omega

/-- The double nearest to a whole number of up to 64 bits. -/
def ofNat (negative : Bool) (n : Nat) (small : n < 0x10000000000000000) : Double :=
  (rounded (n * unitsPerOne) 1).toDouble negative (shift_of_word small)

/-- The double nearest to `10 ^ k`, or none if that exceeds every finite double. -/
def powerOfTen? (k : Nat) : Option Double :=
  ofUnits? false (Nat.pow 10 k * unitsPerOne) 1

/-- The double nearest to a product, or none if that exceeds every finite double. -/
def mul? (x y : Double) : Option Double :=
  ofUnits? (x.negative != y.negative) (x.magnitude * y.magnitude) unitsPerOne

/-- The double nearest to a quotient, or none if that exceeds every finite double. -/
def div? (x y : Double) : Option Double :=
  ofUnits? (x.negative != y.negative) (x.magnitude * unitsPerOne) y.magnitude

/-- Whether the value is a whole number. -/
def isWhole (x : Double) : Bool := x.magnitude % unitsPerOne == 0

/-- The whole part of the value: the fraction is dropped. -/
def truncate (x : Double) : Int :=
  let whole := x.magnitude / unitsPerOne
  if x.negative then -(whole : Int) else whole

end Double

/-- A number of the binary64 format other than a NaN. -/
inductive ExtDouble where
  | finite (value : Double)
  | infinite (negative : Bool)
  deriving DecidableEq

namespace ExtDouble

def negate : ExtDouble → ExtDouble
  | .finite value => .finite value.negate
  | .infinite negative => .infinite (!negative)

def finite? : ExtDouble → Option Double
  | .finite value => some value
  | .infinite _ => none

/-- The double nearest to `digits * 10 ^ exponent`; beyond the range it is infinite. Numbers far
outside the range are settled by their size alone. -/
def ofDecimal (negative : Bool) (digits : Nat) (exponent : Int) : ExtDouble :=
  let size := (Nat.toDigits 10 digits).length + exponent
  let zero : ExtDouble := .finite { Double.zero with negative }
  if digits = 0 ∨ size < -330 then zero
  else if 310 < size then .infinite negative
  else
    let nearest :=
      if 0 ≤ exponent then
        Double.ofUnits? negative (digits * Nat.pow 10 exponent.toNat * Double.unitsPerOne) 1
      else
        Double.ofUnits? negative (digits * Double.unitsPerOne) (Nat.pow 10 exponent.natAbs)
    match nearest with
    | some value => .finite value
    | none => .infinite negative

end ExtDouble

end RecordQuery
