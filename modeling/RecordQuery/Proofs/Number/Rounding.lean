import RecordQuery.Value

/-!
# The nearest double of a number

Rounding leaves the numbers of the format where they are and never turns two numbers around, so a
comparison of nearest doubles can blur the order of two numbers but not reverse it. The values of
doubles are whole numbers of units, and so is what is rounded here: first without a sign, then with
one.
-/

namespace RecordQuery

namespace Double

/-! ## Quotients -/

/-- A greater number has no smaller rounded quotient. -/
theorem divideToEven_mono {n m : Nat} (den : Nat) (le : n ≤ m) :
    divideToEven n den ≤ divideToEven m den := by
  rcases Nat.lt_or_eq_of_le (Nat.div_le_div_right (c := den) le) with less | same
  · calc divideToEven n den ≤ n / den + 1 := divideToEven_le n den
      _ ≤ m / den := less
      _ ≤ divideToEven m den := div_le_divideToEven m den
  · have parts := Nat.div_add_mod n den
    have others := Nat.div_add_mod m den
    have rest : n % den ≤ m % den := by
      rw [same] at parts
      omega
    unfold divideToEven
    simp only [same]
    repeat' split
    all_goals omega

/-- A quotient without a remainder is not rounded. -/
theorem divideToEven_mul (n : Nat) {den : Nat} (positive : 0 < den) :
    divideToEven (n * den) den = n := by
  unfold divideToEven
  simp [Nat.mul_div_cancel n positive, positive]

/-! ## Numbers without a sign -/

/-- The units of the double nearest to a number of units. -/
def nearestNat (n : Nat) : Nat := (rounded n 1).mantissa * Nat.pow 2 (rounded n 1).shift

/-- A carry into a longer mantissa changes the spelling only. -/
theorem nearestNat_eq (n : Nat) :
    nearestNat n = divideToEven n (Nat.pow 2 (shiftFor n)) * Nat.pow 2 (shiftFor n) := by
  unfold nearestNat rounded
  simp only [Nat.div_one, Nat.one_mul]
  split
  · rename_i carried
    rw [carried]
    show 0x10000000000000 * Nat.pow 2 (shiftFor n + 1) = 0x20000000000000 * Nat.pow 2 (shiftFor n)
    rw [Nat.pow_eq, Nat.pow_eq, Nat.pow_succ]
    omega
  · rfl

/-- The nearest double has at most one bit more. -/
theorem nearestNat_le (n : Nat) : nearestNat n ≤ Nat.pow 2 (53 + shiftFor n) := by
  have short : divideToEven n (Nat.pow 2 (shiftFor n)) ≤ 2 ^ 53 :=
    Nat.le_trans (divideToEven_le _ _) (shifted_lt n)
  rw [nearestNat_eq, Nat.pow_eq, Nat.pow_eq, Nat.pow_add]
  exact Nat.mul_le_mul_right _ short

/-- The nearest double has no bit less. -/
theorem le_nearestNat {n : Nat} (long : 0 < shiftFor n) :
    Nat.pow 2 (52 + shiftFor n) ≤ nearestNat n := by
  have full : 2 ^ 52 ≤ divideToEven n (Nat.pow 2 (shiftFor n)) :=
    Nat.le_trans ((le_shifted n).resolve_right (Nat.ne_of_gt long)) (div_le_divideToEven _ _)
  rw [nearestNat_eq, Nat.pow_eq, Nat.pow_eq, Nat.pow_add]
  exact Nat.mul_le_mul_right _ full

theorem shiftFor_mono {n m : Nat} (le : n ≤ m) : shiftFor n ≤ shiftFor m := by
  have bits : n.log2 ≤ m.log2 := by
    by_cases zero : n = 0
    · simp [zero]
    · exact (Nat.le_log2 (by omega)).2 (Nat.le_trans (Nat.log2_self_le zero) le)
  unfold shiftFor
  omega

/-- A greater number has no smaller nearest double. With the same shift it is a matter of quotients;
otherwise a power of two lies between the two doubles. -/
theorem nearestNat_mono {n m : Nat} (le : n ≤ m) : nearestNat n ≤ nearestNat m := by
  rcases Nat.lt_or_eq_of_le (shiftFor_mono le) with shorter | same
  · have powers : Nat.pow 2 (53 + shiftFor n) ≤ Nat.pow 2 (52 + shiftFor m) :=
      Nat.pow_le_pow_right (by decide) (by omega)
    calc nearestNat n ≤ Nat.pow 2 (53 + shiftFor n) := nearestNat_le n
      _ ≤ Nat.pow 2 (52 + shiftFor m) := powers
      _ ≤ nearestNat m := le_nearestNat (by omega)
  · rw [nearestNat_eq, nearestNat_eq, same]
    exact Nat.mul_le_mul_right _ (divideToEven_mono _ le)

/-- A double is its own nearest one. -/
theorem nearestNat_magnitude (x : Double) : nearestNat x.magnitude = x.magnitude := by
  have shift : shiftFor x.magnitude = x.shift := by
    unfold magnitude shiftFor
    rw [Nat.pow_eq]
    rcases x.normal with normal | unshifted
    · have nonzero : x.mantissa * 2 ^ x.shift ≠ 0 :=
        Nat.mul_ne_zero (by omega) (Nat.ne_of_gt (Nat.two_pow_pos _))
      have bits : (x.mantissa * 2 ^ x.shift).log2 = 52 + x.shift := by
        rw [Nat.log2_eq_iff nonzero, Nat.add_right_comm, Nat.pow_add, Nat.pow_add]
        constructor
        · exact Nat.mul_le_mul_right _ normal
        · exact Nat.mul_lt_mul_of_pos_right x.mantissa_lt (Nat.two_pow_pos x.shift)
      omega
    · rw [unshifted, Nat.pow_zero, Nat.mul_one]
      by_cases zero : x.mantissa = 0
      · simp [zero]
      · have := (Nat.log2_lt zero).2 (show x.mantissa < 2 ^ 53 from x.mantissa_lt)
        omega
  rw [nearestNat_eq, shift]
  unfold magnitude
  rw [divideToEven_mul]
  exact Nat.two_pow_pos x.shift

/-! ## Numbers with a sign -/

/-- The units of the double nearest to a number of units, with their signs. -/
def nearest (n : Int) : Int := if n < 0 then -(nearestNat n.natAbs : Int) else nearestNat n.natAbs

theorem nearest_mono {n m : Int} (le : n ≤ m) : nearest n ≤ nearest m := by
  unfold nearest
  split <;> split
  · have := nearestNat_mono (show m.natAbs ≤ n.natAbs by omega)
    omega
  · omega
  · omega
  · have := nearestNat_mono (show n.natAbs ≤ m.natAbs by omega)
    omega

theorem nearest_units (x : Double) : nearest x.units = x.units := by
  have own := nearestNat_magnitude x
  unfold nearest units
  split
  · rw [Int.natAbs_neg, Int.natAbs_natCast, own]
    split <;> omega
  · rw [Int.natAbs_natCast, own]
    split <;> omega

/-! ## Whole numbers of words -/

theorem unitsPerOne_pos : 0 < (unitsPerOne : Int) := by
  unfold unitsPerOne
  generalize unitBits = bits
  exact Int.natCast_pos.2 (Nat.two_pow_pos bits)

theorem Spelling.magnitude_toDouble (spelling : Spelling) (negative : Bool)
    (fits : spelling.shift ≤ 2045) :
    (spelling.toDouble negative fits).magnitude = spelling.mantissa * Nat.pow 2 spelling.shift :=
  rfl

theorem magnitude_ofNat (negative : Bool) {n : Nat} (small : n < 0x10000000000000000) :
    (ofNat negative n small).magnitude = nearestNat (n * unitsPerOne) := by
  rw [ofNat, Spelling.magnitude_toDouble, nearestNat]

theorem negative_ofNat (negative : Bool) {n : Nat} (small : n < 0x10000000000000000) :
    (ofNat negative n small).negative = negative := by
  rw [ofNat, Spelling.toDouble]

end Double

/-! ## Numbers of data -/

/-- The double of a whole number is the nearest one. -/
theorem WordInt.units_toDouble (n : WordInt) :
    n.toDouble.units = Double.nearest (n.val * Double.unitsPerOne) := by
  have sign : n.val * (Double.unitsPerOne : Int) < 0 ↔ n.val < 0 := by
    rw [← Int.mul_lt_mul_right (b := n.val) Double.unitsPerOne_pos, Int.zero_mul]
  unfold Double.nearest Double.units toDouble
  rw [Double.magnitude_ofNat, Double.negative_ofNat, Int.natAbs_mul, Int.natAbs_natCast]
  simp only [sign, decide_eq_true_eq]

namespace Number

/-- The exact value of a number, counted in units. -/
def units : Number → Int
  | .int n => n.val * Double.unitsPerOne
  | .float x => x.units

theorem units_toDouble (n : Number) : n.toDouble.units = Double.nearest n.units := by
  cases n with
  | int n => exact n.units_toDouble
  | float x => exact x.nearest_units.symm

/-- Whole numbers are ordered by their units as they are. -/
theorem compare_units_int (n m : WordInt) :
    compare (units (.int n)) (units (.int m)) = compare n.val m.val := by
  have positive := Double.unitsPerOne_pos
  simp only [units]
  cases order : compare n.val m.val with
  | lt =>
      rw [Int.compare_eq_lt] at order ⊢
      exact Int.mul_lt_mul_of_pos_right order positive
  | eq =>
      rw [Int.compare_eq_eq] at order ⊢
      rw [order]
  | gt =>
      rw [Int.compare_eq_gt] at order ⊢
      exact Int.mul_lt_mul_of_pos_right order positive

end Number

end RecordQuery
