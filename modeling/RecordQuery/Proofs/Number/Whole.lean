import RecordQuery.Condition.Binding
import RecordQuery.Proofs.Number.Rounding

/-!
# Whole numbers in data

A double holds a whole number where its units are a multiple of those of one, and a text spells one
in decimal digits behind an optional sign. Reading either as a whole number gives the number itself.
-/

namespace RecordQuery

/-! ## Doubles -/

namespace Double

variable {x : Double} {m : Int}

theorem natAbs_truncate (x : Double) : x.truncate.natAbs = x.magnitude / unitsPerOne := by
  unfold truncate
  dsimp only
  split
  · rw [Int.natAbs_neg, Int.natAbs_natCast]
  · rw [Int.natAbs_natCast]

/-- A whole number is its whole part. -/
theorem units_of_isWhole (whole : x.isWhole = true) : x.units = x.truncate * unitsPerOne := by
  have parts : x.magnitude / unitsPerOne * unitsPerOne = x.magnitude :=
    Nat.div_mul_cancel (Nat.dvd_of_mod_eq_zero (beq_iff_eq.1 whole))
  unfold units truncate
  dsimp only
  split
  · rw [Int.neg_mul, ← Int.natCast_mul, parts]
  · rw [← Int.natCast_mul, parts]

/-- A multiple of the units of one is a whole number. -/
theorem isWhole_of_units (exact : x.units = m * unitsPerOne) :
    x.isWhole = true ∧ x.truncate = m := by
  have size : x.magnitude = m.natAbs * unitsPerOne := by
    have sizes := congrArg Int.natAbs exact
    rw [Int.natAbs_mul, Int.natAbs_natCast] at sizes
    rw [← sizes, units]
    split
    · rw [Int.natAbs_neg, Int.natAbs_natCast]
    · rw [Int.natAbs_natCast]
  have whole : x.isWhole = true := by
    rw [isWhole, size, Nat.mul_mod_left, beq_self_eq_true]
  constructor
  · exact whole
  · have same := (units_of_isWhole whole).symm.trans exact
    exact Int.eq_of_mul_eq_mul_right (Int.ne_of_gt unitsPerOne_pos) same

/-- Apart from the sign, a whole number is below a bound where its units are below those of the
bound. -/
theorem magnitude_lt_iff (x : Double) (bound : Nat) :
    x.magnitude < bound * unitsPerOne ↔ x.truncate.natAbs < bound := by
  rw [natAbs_truncate, Nat.div_lt_iff_lt_mul (Int.natCast_pos.1 unitsPerOne_pos)]

/-- A double is read as a word only where it is that word. -/
theorem units_of_toInt64? {n : Int64} (read : x.toInt64? = some n) :
    x.units = n.toInt * unitsPerOne := by
  rw [toInt64?] at read
  split at read
  · rename_i small
    rw [Bool.and_eq_true, decide_eq_true_eq, magnitude_lt_iff] at small
    cases read
    rw [Int64.toInt_ofInt_of_le (by omega) (by omega)]
    exact units_of_isWhole small.1
  · cases read

end Double

/-! ## Numbers -/

namespace Number

/-- A number has the value of a whole number. -/
def IsInt (n : Number) (m : Int) : Prop := n.units = m * Double.unitsPerOne

theorem isInt_int_iff {n : WordInt} {m : Int} : IsInt (.int n) m ↔ n.val = m := by
  constructor
  · intro exact
    exact Int.eq_of_mul_eq_mul_right (Int.ne_of_gt Double.unitsPerOne_pos) exact
  · rintro rfl
    rfl

theorem isInt_unique {n : Number} {m m' : Int} (first : n.IsInt m) (second : n.IsInt m') : m = m' :=
  Int.eq_of_mul_eq_mul_right (Int.ne_of_gt Double.unitsPerOne_pos) (first.symm.trans second)

end Number

/-! ## Numerals -/

/-- Decimal digits behind an optional sign spell a whole number. -/
inductive SpellsInt : List Char → Int → Prop where
  | unsigned {digits : List Char} (nonempty : digits ≠ []) (decimal : digits.all Char.isDigit = true) :
      SpellsInt digits (Nat.ofDigitChars 10 digits 0)
  | plus {digits : List Char} (nonempty : digits ≠ []) (decimal : digits.all Char.isDigit = true) :
      SpellsInt ('+' :: digits) (Nat.ofDigitChars 10 digits 0)
  | minus {digits : List Char} (nonempty : digits ≠ []) (decimal : digits.all Char.isDigit = true) :
      SpellsInt ('-' :: digits) (-(Nat.ofDigitChars 10 digits 0 : Int))

/-- A text spells one whole number at most. -/
theorem SpellsInt.unique {text : List Char} {m m' : Int} (first : SpellsInt text m)
    (second : SpellsInt text m') : m = m' := by
  cases first with
  | unsigned nonempty decimal =>
      cases second with
      | unsigned => rfl
      | plus | minus => simp at decimal
  | plus nonempty decimal =>
      cases second with
      | unsigned _ decimal => simp at decimal
      | plus => rfl
  | minus nonempty decimal =>
      cases second with
      | unsigned _ decimal => simp at decimal
      | minus => rfl

/-- The word of a size and a sign, if there is one. -/
def wordOfSize? (negative : Bool) (digits : List Char) : Option Int64 :=
  if digits.isEmpty || !digits.all Char.isDigit then none
  else
    let size : Nat := Nat.ofDigitChars 10 digits 0
    let value : Int := if negative then -(size : Int) else size
    if -0x8000000000000000 ≤ value && value < 0x8000000000000000 then some (Int64.ofInt value)
    else none

theorem readInt64?_unsigned {text : List Char} (plain : ∀ digits, text ≠ '-' :: digits)
    (plain' : ∀ digits, text ≠ '+' :: digits) : readInt64? text = wordOfSize? false text := by
  rw [readInt64?.eq_def]
  split
  rename_i negative digits found
  split at found
  · exact absurd rfl (plain _)
  · exact absurd rfl (plain' _)
  · cases found
    rfl

theorem wordOfSize?_eq_some_iff {negative : Bool} {digits : List Char} {n : Int64} :
    wordOfSize? negative digits = some n ↔
      digits ≠ [] ∧ digits.all Char.isDigit = true ∧
        n.toInt = if negative then -(Nat.ofDigitChars 10 digits 0 : Int)
          else Nat.ofDigitChars 10 digits 0 := by
  rw [wordOfSize?]
  dsimp only
  generalize (if negative then -(Nat.ofDigitChars 10 digits 0 : Int)
    else Nat.ofDigitChars 10 digits 0) = value
  have lower := n.le_toInt
  have upper := n.toInt_lt
  split
  · rename_i unreadable
    constructor
    · nofun
    · rintro ⟨nonempty, decimal, -⟩
      simp [nonempty, decimal] at unreadable
  · rename_i readable
    rw [Bool.not_eq_true, Bool.or_eq_false_iff, List.isEmpty_eq_false_iff,
      Bool.not_eq_false'] at readable
    rw [and_iff_right readable.1, and_iff_right readable.2]
    constructor
    · intro found
      split at found
      · rename_i inside
        rw [Bool.and_eq_true, decide_eq_true_eq, decide_eq_true_eq] at inside
        cases found
        exact Int64.toInt_ofInt_of_le (by omega) (by omega)
      · cases found
    · intro same
      subst same
      rw [if_pos (by simp; omega), Int64.ofInt_toInt]

/-- A text is read as a word exactly where it spells it. -/
theorem readInt64?_eq_some_iff {text : List Char} {n : Int64} :
    readInt64? text = some n ↔ SpellsInt text n.toInt := by
  constructor
  · intro read
    rw [readInt64?.eq_def] at read
    split at read
    rename_i negative digits found
    change wordOfSize? negative digits = some n at read
    obtain ⟨nonempty, decimal, value⟩ := wordOfSize?_eq_some_iff.1 read
    rw [value]
    split at found
    · cases found
      exact .minus nonempty decimal
    · cases found
      exact .plus nonempty decimal
    · cases found
      exact .unsigned nonempty decimal
  · generalize value : n.toInt = m
    intro spelled
    cases spelled with
    | minus nonempty decimal =>
        exact wordOfSize?_eq_some_iff.2 ⟨nonempty, decimal, value⟩
    | plus nonempty decimal =>
        exact wordOfSize?_eq_some_iff.2 ⟨nonempty, decimal, value⟩
    | unsigned nonempty decimal =>
        -- A digit is no sign, so nothing is taken off the front.
        have plain (sign : Char) (other : sign.isDigit = false) (rest : List Char) :
            text ≠ sign :: rest := by
          intro same
          subst same
          simp [other] at decimal
        rw [readInt64?_unsigned (plain '-' rfl) (plain '+' rfl)]
        exact wordOfSize?_eq_some_iff.2 ⟨nonempty, decimal, value⟩

/-! ## Values -/

/-- The whole number that a value stands for: a number by its value, a text by what it spells
between blanks. -/
inductive Value.StandsFor : Value → Int → Prop where
  | number {n : Number} {m : Int} (exact : n.IsInt m) : StandsFor (.number n) m
  | text {s : String} {m : Int} (spelled : SpellsInt (Text.trimChars s.toList) m) :
      StandsFor (.string s) m

theorem Value.StandsFor.unique {value : Value} {m m' : Int} (first : value.StandsFor m)
    (second : value.StandsFor m') : m = m' := by
  cases first with
  | number exact =>
      cases second with
      | number exact' => exact Number.isInt_unique exact exact'
  | text spelled =>
      cases second with
      | text spelled' => exact spelled.unique spelled'

end RecordQuery
