import RecordQuery.Proofs.Condition.Membership
import RecordQuery.Proofs.Number.Whole
import RecordQuery.Proofs.Table.Casts

/-!
# Casts to whole numbers

A cast to a whole number gives the signed word that a value stands for. A number beyond the signed
words becomes the nearest of them, so such a cast changes it; a text that spells such a number is
refused.
-/

namespace RecordQuery

open Sql (Expr)

/-! ## Numbers beyond the signed words -/

/-- A number beyond the signed words is taken for the nearest of them. -/
inductive Value.Clamps : Value → Int64 → Prop where
  | above {n : Number} {m : Int} (exact : n.IsInt m) (beyond : 0x8000000000000000 ≤ m) :
      Clamps (.number n) Int64.maxValue
  | below {n : Number} {m : Int} (exact : n.IsInt m) (beyond : m < -0x8000000000000000) :
      Clamps (.number n) Int64.minValue

/-- The signed word nearest to a whole number. -/
def nearestWord (m : Int) : Int64 :=
  Int64.ofInt (max (-0x8000000000000000) (min 0x7fffffffffffffff m))

theorem nearestWord_eq_iff {m : Int} {n : Int64} :
    nearestWord m = n ↔ n.toInt = m ∨ (0x8000000000000000 ≤ m ∧ n = Int64.maxValue) ∨
      (m < -0x8000000000000000 ∧ n = Int64.minValue) := by
  have size : (nearestWord m).toInt = max (-0x8000000000000000) (min 0x7fffffffffffffff m) := by
    apply Int64.toInt_ofInt_of_le
    · omega
    · omega
  have lower := n.le_toInt
  have upper := n.toInt_lt
  rw [← Int64.toInt_inj, ← Int64.toInt_inj (y := Int64.maxValue),
    ← Int64.toInt_inj (y := Int64.minValue), Int64.toInt_maxValue, Int64.toInt_minValue, size]
  omega

namespace Double

/-- Rounding a whole number beyond the signed words gives such a number: its least bit lies far above
any fraction. -/
theorem nearestNat_large {n : Nat} (large : 0x8000000000000000 ≤ n) :
    unitsPerOne ∣ nearestNat (n * unitsPerOne) ∧
      0x8000000000000000 * unitsPerOne ≤ nearestNat (n * unitsPerOne) := by
  have one : unitsPerOne = 2 ^ unitBits := by
    unfold unitsPerOne
    generalize unitBits = bits
    rfl
  have bound : 0x8000000000000000 * unitsPerOne = 2 ^ (63 + unitBits) := by
    rw [one, Nat.pow_add]
  have long : 11 + unitBits ≤ shiftFor (n * unitsPerOne) := by
    have size : 2 ^ (63 + unitBits) ≤ n * unitsPerOne := by
      rw [← bound]
      exact Nat.mul_le_mul_right _ large
    have nonzero : n * unitsPerOne ≠ 0 := by
      have positive : 0 < 2 ^ (63 + unitBits) := Nat.two_pow_pos _
      omega
    have bits : 63 + unitBits ≤ (n * unitsPerOne).log2 := (Nat.le_log2 nonzero).2 size
    unfold shiftFor
    omega
  constructor
  · rw [nearestNat_eq]
    generalize shiftFor (n * unitsPerOne) = shift at long
    have divides : unitsPerOne ∣ Nat.pow 2 shift := by
      rw [one]
      exact Nat.pow_dvd_pow 2 (by omega)
    exact Nat.dvd_mul_left_of_dvd divides _
  · rw [bound]
    refine Nat.le_trans ?_ (le_nearestNat (by omega))
    exact Nat.pow_le_pow_right (by decide) (by omega)

end Double

/-- A whole number beyond the signed words has a double beyond them. -/
theorem WordInt.truncate_toDouble {n : WordInt} (large : 0x8000000000000000 ≤ n.val) :
    n.toDouble.isWhole = true ∧ 0x8000000000000000 ≤ n.toDouble.truncate := by
  have exact := n.units_toDouble
  have size : (n.val * (Double.unitsPerOne : Int)) = (n.val.natAbs * Double.unitsPerOne : Nat) := by
    rw [Int.natCast_mul, Int.natAbs_of_nonneg (by omega)]
  obtain ⟨⟨m, whole⟩, least⟩ := Double.nearestNat_large (n := n.val.natAbs) (by omega)
  rw [size, Double.nearest, if_neg (by omega), Int.natAbs_natCast, whole, Int.natCast_mul,
    Int.mul_comm] at exact
  obtain ⟨isWhole, part⟩ := Double.isWhole_of_units exact
  refine ⟨isWhole, ?_⟩
  rw [part]
  rw [whole, Nat.mul_comm Double.unitsPerOne] at least
  have below := Nat.le_of_mul_le_mul_right least (Int.natCast_pos.1 Double.unitsPerOne_pos)
  omega

/-! ## Casts of values -/

namespace ScalarKind

/-- A whole number is cast to the word nearest to it. -/
theorem cast?_int_of_isInt {n : Number} {m : Int} (exact : n.IsInt m) :
    cast? .int (.number n) = some (.ofInt64 (nearestWord m)) := by
  cases n with
  | int n =>
      have same := Number.isInt_int_iff.1 exact
      subst same
      rw [cast?, Number.signed?]
      cases signed : n.signed? with
      | some word =>
          have value := WordInt.toInt_of_signed? signed
          have nearest : nearestWord n.val = word := nearestWord_eq_iff.2 (.inl value)
          rw [nearest]
      | none =>
          have large : 0x8000000000000000 ≤ n.val := by
            rw [WordInt.signed?] at signed
            split at signed
            · cases signed
            · omega
          obtain ⟨whole, beyond⟩ := WordInt.truncate_toDouble large
          have greatest : nearestWord n.val = Int64.maxValue :=
            nearestWord_eq_iff.2 (.inr (.inl ⟨large, rfl⟩))
          have greatest' : n.toDouble.clampInt64 = Int64.maxValue :=
            nearestWord_eq_iff.2 (.inr (.inl ⟨beyond, rfl⟩))
          simp only [Number.toDouble, whole, if_true, greatest, greatest']
  | float x =>
      obtain ⟨whole, part⟩ := Double.isWhole_of_units exact
      rw [cast?, Number.signed?]
      simp only [Number.toDouble, whole, if_true]
      rw [Double.clampInt64, part, nearestWord]

/-- A number with a fraction is not cast to a whole number. -/
theorem cast?_int_of_fraction {n : Number} (fraction : ∀ m, ¬ n.IsInt m) :
    cast? .int (.number n) = none := by
  cases n with
  | int n => exact absurd (Number.isInt_int_iff.2 rfl) (fraction n.val)
  | float x =>
      have part : x.isWhole = false := by
        rw [← Bool.not_eq_true]
        intro whole
        exact fraction _ (Double.units_of_isWhole whole)
      rw [cast?, Number.signed?]
      simp only [Number.toDouble, part, Bool.false_eq_true, if_false]

theorem ofInt64_inj {n m : Int64} (same : Value.ofInt64 n = .ofInt64 m) : n = m := by
  rw [← Int64.toInt_inj]
  injection same with same
  injection same with same
  exact congrArg WordInt.val same

/-- A number is cast to the word that it stands for, or to the nearest one if it is beyond them. -/
theorem cast?_int_number_iff {n : Number} {word : Int64} :
    cast? .int (.number n) = some (.ofInt64 word) ↔
      (Value.number n).StandsFor word.toInt ∨ (Value.number n).Clamps word := by
  by_cases whole : ∃ m, n.IsInt m
  · obtain ⟨m, exact⟩ := whole
    rw [cast?_int_of_isInt exact]
    constructor
    · intro same
      have nearest := nearestWord_eq_iff.1 (ofInt64_inj (Option.some.inj same))
      rcases nearest with value | ⟨beyond, greatest⟩ | ⟨beyond, least⟩
      · exact .inl (.number (value ▸ exact))
      · subst greatest
        exact .inr (.above exact beyond)
      · subst least
        exact .inr (.below exact beyond)
    · intro stands
      have nearest : nearestWord m = word := by
        rw [nearestWord_eq_iff]
        cases stands with
        | inl stands =>
            cases stands with
            | number exact' => exact .inl (Number.isInt_unique exact' exact)
        | inr clamps =>
            cases clamps with
            | above exact' beyond =>
                exact .inr (.inl ⟨Number.isInt_unique exact exact' ▸ beyond, rfl⟩)
            | below exact' beyond =>
                exact .inr (.inr ⟨Number.isInt_unique exact exact' ▸ beyond, rfl⟩)
      rw [nearest]
  · rw [not_exists] at whole
    rw [cast?_int_of_fraction whole]
    constructor
    · nofun
    · intro stands
      cases stands with
      | inl stands =>
          cases stands with
          | number exact => exact absurd exact (whole _)
      | inr clamps =>
          cases clamps with
          | above exact _ | below exact _ => exact absurd exact (whole _)

/-- Text is cast to the word that it spells. -/
theorem cast?_int_string_iff {s : String} {word : Int64} :
    cast? .int (.string s) = some (.ofInt64 word) ↔
      (Value.string s).StandsFor word.toInt ∨ (Value.string s).Clamps word := by
  rw [cast?, Option.map_eq_some_iff]
  constructor
  · rintro ⟨own, read, same⟩
    have own := ofInt64_inj same
    subst own
    exact .inl (.text (readInt64?_eq_some_iff.1 read))
  · intro stands
    cases stands with
    | inl stands =>
        cases stands with
        | text spelled => exact ⟨word, readInt64?_eq_some_iff.2 spelled, rfl⟩
    | inr clamps => cases clamps

/-- A cast to a whole number gives null for null and a signed word otherwise. -/
theorem exists_of_cast?_int {given shown : Value} (cast : cast? .int given = some shown) :
    (given = .null ∧ shown = .null) ∨ (given ≠ .null ∧ ∃ n : Int64, shown = .ofInt64 n) := by
  cases given with
  | null =>
      cases cast
      exact .inl ⟨rfl, rfl⟩
  | number n =>
      by_cases whole : ∃ m, n.IsInt m
      · obtain ⟨m, exact⟩ := whole
        rw [cast?_int_of_isInt exact] at cast
        cases cast
        exact .inr ⟨nofun, _, rfl⟩
      · rw [not_exists] at whole
        rw [cast?_int_of_fraction whole] at cast
        cases cast
  | string s =>
      obtain ⟨n, -, same⟩ := Option.map_eq_some_iff.1 cast
      exact .inr ⟨nofun, n, same.symm⟩
  | _ => cases cast

/-- What a cast to a whole number gives. -/
theorem cast?_int_iff {given : Value} {n : Int64} :
    cast? .int given = some (.ofInt64 n) ↔ given.StandsFor n.toInt ∨ given.Clamps n := by
  cases given with
  | number => exact cast?_int_number_iff
  | string => exact cast?_int_string_iff
  | _ =>
      constructor
      · nofun
      · intro stands
        cases stands with
        | inl stands => cases stands
        | inr clamps => cases clamps

/-- Anything else is not cast to a whole number. -/
theorem cast?_int_eq_none {given : Value} (present : given ≠ .null)
    (apart : ∀ n : Int64, ¬ (given.StandsFor n.toInt ∨ given.Clamps n)) :
    cast? .int given = none := by
  cases cast : cast? .int given with
  | none => rfl
  | some shown =>
      cases exists_of_cast?_int cast with
      | inl null => exact absurd null.1 present
      | inr word =>
          obtain ⟨-, n, same⟩ := word
          subst same
          exact absurd (cast?_int_iff.1 cast) (apart n)

end ScalarKind

/-! ## Columns -/

namespace RowPlan

variable {context : Context} {name : String} {parts : List Expr} {label : Option String}
  {consumed taken : Nat} {kind : ScalarKind} {source : Expr} {given : Value}

theorem ofName_of_toLower (lower : name.toLower = "cast") :
    ColumnFunction.ofName name = .ok .cast := by
  rw [ColumnFunction.ofName, lower]
  rfl

theorem castParts_of_target {label target : String}
    (known : ScalarKind.ofCastTarget? target.toLower = some kind) :
    castParts label [source, .column target] = .ok (kind, source) := by
  rw [castParts, known]

/-- A column that calls a cast shows its value. -/
theorem ofCall_of_cast (named : ColumnFunction.ofName name = .ok .cast)
    (split : castParts (label.getD name) parts = .ok (kind, source))
    (sourced : castSource context (label.getD name) consumed source = .ok (given, taken)) :
    ofCall context name parts label consumed =
      (fun shown => (⟨label.getD name, .scalar kind, .constant shown⟩, taken)) <$>
        kind.cast (label.getD name) given := by
  simp only [ofCall, named, split, sourced, Outcome.ok_bind]
  cases kind.cast (label.getD name) given <;> rfl

/-- A column that casts to a whole number shows null for null, and a signed word exactly where the
value stands for that word or is a number beyond the signed words that is taken for it. All other
values are refused. -/
theorem ofCall_int (named : ColumnFunction.ofName name = .ok .cast)
    (split : castParts (label.getD name) parts = .ok (.int, source))
    (sourced : castSource context (label.getD name) consumed source = .ok (given, taken)) :
    let column shown : OutputColumn := ⟨label.getD name, .scalar .int, .constant shown⟩
    let made := ofCall context name parts label consumed
    (given = .null → made = .ok (column .null, taken)) ∧
    (∀ n : Int64, made = .ok (column (.ofInt64 n), taken) ↔
      given.StandsFor n.toInt ∨ given.Clamps n) ∧
    (given ≠ .null → (∀ n : Int64, ¬ (given.StandsFor n.toInt ∨ given.Clamps n)) →
      made = .error (.argument (.uncastable (label.getD name) .int given))) := by
  intro column made
  have called : made = (fun shown => (column shown, taken)) <$>
      ScalarKind.int.cast (label.getD name) given := ofCall_of_cast named split sourced
  have shows (shown : Value) : made = .ok (column shown, taken) ↔
      ScalarKind.int.cast? given = some shown := by
    rw [called, Outcome.map_eq_ok, ← ScalarKind.cast_eq_ok_iff]
    constructor
    · rintro ⟨other, cast, same⟩
      cases same
      exact cast
    · intro cast
      exact ⟨shown, cast, rfl⟩
  refine ⟨?_, ?_, ?_⟩
  · rintro rfl
    exact (shows _).2 rfl
  · intro n
    rw [shows, ScalarKind.cast?_int_iff]
  · intro present apart
    rw [called, ScalarKind.cast, ScalarKind.cast?_int_eq_none present apart]
    rfl

/-- The least word, spelled between blanks. -/
def leastSpelled : Value := .string " -9223372036854775808\n"

theorem ofCall_int_leastSpelled :
    leastSpelled.StandsFor (-9223372036854775808) ∧
      ofCall ⟨⟨0, 0⟩, ⟨"single", []⟩, [leastSpelled]⟩ "CAST" [.placeholder 0, .column "Int"]
        (some "N") 0 =
      .ok (⟨"N", .scalar .int, .constant (.ofInt64 (-9223372036854775808))⟩, 1) := by
  have spelled : readInt64? (Text.trimChars " -9223372036854775808\n".toList) =
      some (-9223372036854775808) := by
    decide
  have stands : leastSpelled.StandsFor (Int64.toInt (-9223372036854775808)) :=
    .text (readInt64?_eq_some_iff.1 spelled)
  have named := ofName_of_toLower (show "CAST".toLower = "cast" by decide +kernel)
  have target : ScalarKind.ofCastTarget? "Int".toLower = some .int := by decide +kernel
  have shows := @ofCall_int ⟨⟨0, 0⟩, ⟨"single", []⟩, [leastSpelled]⟩ "CAST"
    [.placeholder 0, .column "Int"] (some "N") 0 1 (.placeholder 0) leastSpelled named
    (castParts_of_target target) rfl
  exact ⟨stands, (shows.2.1 _).2 (.inl stands)⟩

/-- The greatest unsigned word. -/
def greatestUnsigned : WordInt := ⟨0xffffffffffffffff, by decide, by decide⟩

/-- The greatest unsigned word is cast to the greatest signed one. -/
theorem ofCall_greatestUnsigned :
    ofCall ⟨⟨0, 0⟩, ⟨"single", []⟩, [.number (.int greatestUnsigned)]⟩ "CAST"
        [.placeholder 0, .column "int"] (some "N") 0 =
      .ok (⟨"N", .scalar .int, .constant (.ofInt64 9223372036854775807)⟩, 1) ∧
    ∀ n, (Value.number (.int greatestUnsigned)).StandsFor n → n = 18446744073709551615 := by
  constructor
  · have named := ofName_of_toLower (show "CAST".toLower = "cast" by decide +kernel)
    have target : ScalarKind.ofCastTarget? "int".toLower = some .int := by decide +kernel
    rw [@ofCall_of_cast ⟨⟨0, 0⟩, ⟨"single", []⟩, [.number (.int greatestUnsigned)]⟩ "CAST"
      [.placeholder 0, .column "int"] (some "N") 0 1 .int (.placeholder 0)
      (.number (.int greatestUnsigned)) named (castParts_of_target target) rfl, ScalarKind.cast,
      ScalarKind.cast?_int_of_isInt (Number.isInt_int_iff.2 rfl)]
    rfl
  · intro n stands
    exact stands.unique (.number (Number.isInt_int_iff.2 rfl))

end RowPlan

end RecordQuery
