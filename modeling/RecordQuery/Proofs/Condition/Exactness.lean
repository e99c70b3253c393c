import RecordQuery.Proofs.Condition.Presence
import RecordQuery.Proofs.Number.Whole

/-!
# Exact conversions

An argument is converted to the kind of the field that it is compared with, or refused. A conversion
that succeeds invents nothing: null stays null and nothing else becomes null, a number keeps its
value in whatever form it comes, and what has been converted converts to itself.
-/

namespace RecordQuery

variable {name : String} {kind : ScalarKind} {given value : Value}

/-- Null stays null, and nothing else becomes null. -/
theorem coerce?_eq_null_iff (converted : coerce? kind given = some value) :
    value = .null ↔ given = .null := by
  constructor
  · intro null
    by_contra present
    have kept := isNull_of_coerce? converted present
    rw [null] at kept
    cases kept
  · intro null
    subst null
    have kept : coerce? kind .null = some .null := by cases kind <;> rfl
    exact Option.some.inj (converted.symm.trans kept)

/-- What has been converted converts to itself. -/
theorem coerce?_idem (converted : coerce? kind given = some value) :
    coerce? kind value = some value := by
  rw [coerce?.eq_def] at converted
  split at converted
  case h_1 =>
      cases converted
      cases kind <;> rfl
  case h_6 | h_7 =>
      obtain ⟨word, -, same⟩ := Option.map_eq_some_iff.1 converted
      subst same
      rfl
  case h_10 =>
      split at converted
      · rename_i isText
        cases converted
        exact if_pos isText
      · cases converted
  case h_11 => cases converted
  all_goals
    cases converted
    rfl

/-- A whole number comes from a value that stands for it. -/
theorem standsFor_of_coerce? (converted : coerce? .int given = some value)
    (present : given ≠ .null) :
    ∃ n : WordInt, value = .number (.int n) ∧ given.StandsFor n.val := by
  cases given with
  | null => exact absurd rfl present
  | number number =>
      cases number with
      | int n =>
          cases converted
          exact ⟨n, rfl, .number (Number.isInt_int_iff.2 rfl)⟩
      | float x =>
          obtain ⟨word, read, same⟩ := Option.map_eq_some_iff.1 converted
          subst same
          exact ⟨.ofInt64 word, rfl, .number (Double.units_of_toInt64? read)⟩
  | string s =>
      obtain ⟨word, read, same⟩ := Option.map_eq_some_iff.1 converted
      subst same
      exact ⟨.ofInt64 word, rfl, .text (readInt64?_eq_some_iff.1 read)⟩
  | _ => cases converted

/-- A number that is compared with floats keeps its form. -/
theorem number_of_coerce?_float (converted : coerce? .float given = some value)
    (present : given ≠ .null) : ∃ n, given = .number n ∧ value = .number n := by
  cases given with
  | null => exact absurd rfl present
  | number n =>
      cases converted
      exact ⟨n, rfl, rfl⟩
  | _ => cases converted

/-- A conversion that succeeds gives null for null alone and otherwise a value of the kind, which
converts to itself. As a whole number or a float it has the value of the argument, so a number that
becomes a whole number has no fraction and lies within the words of 64 bits. -/
theorem coerce_exact (converted : coerce name kind given = .ok value) :
    (value = .null ↔ given = .null) ∧
    (value ≠ .null → kind.accepts value = true) ∧
    (∀ other, coerce other kind value = .ok value) ∧
    (kind = .int → given ≠ .null →
      ∃ n : WordInt, value = .number (.int n) ∧ given.StandsFor n.val) ∧
    (kind = .int → ∀ n, given = .number n →
      ∃ m : Int, n.IsInt m ∧ -0x8000000000000000 ≤ m ∧ m < 0x10000000000000000) ∧
    (kind = .float → given ≠ .null →
      ∃ n m : Number, given = .number n ∧ value = .number m ∧ m.units = n.units) := by
  have converted := coerce?_of_coerce converted
  refine ⟨coerce?_eq_null_iff converted, ?_, ?_, ?_, ?_, ?_⟩
  · intro present
    cases accepts_of_coerce? converted with
    | inl null => exact absurd null present
    | inr accepted => exact accepted
  · intro other
    rw [coerce, coerce?_idem converted]
  · rintro rfl present
    exact standsFor_of_coerce? converted present
  · rintro rfl n rfl
    have present : Value.number n ≠ .null := by
      intro null
      cases null
    obtain ⟨m, -, stands⟩ := standsFor_of_coerce? converted present
    cases stands with
    | number exact => exact ⟨m.val, exact, m.lower, m.upper⟩
  · rintro rfl present
    obtain ⟨n, isNumber, same⟩ := number_of_coerce?_float converted present
    exact ⟨n, n, isNumber, same, rfl⟩

/-- The greatest double below `2 ^ 63`. -/
def belowWords : Double :=
  ⟨false, 0x1fffffffffffff, 1084, by decide, by decide, by decide⟩

theorem coerce_exact_belowWords :
    coerce "ID" .int (.number (.float belowWords)) = .ok (.ofInt64 9223372036854774784) ∧
      Value.StandsFor (.number (.float belowWords)) 9223372036854774784 := by
  have converted : coerce "ID" .int (.number (.float belowWords)) =
      .ok (.ofInt64 9223372036854774784) := by
    have read : belowWords.toInt64? = some 9223372036854774784 := by decide +kernel
    rw [coerce, coerce?, read]
    rfl
  obtain ⟨-, -, -, whole, -⟩ := coerce_exact converted
  have present : Value.number (.float belowWords) ≠ .null := by
    intro null
    cases null
  obtain ⟨n, same, stands⟩ := whole rfl present
  cases same
  exact ⟨converted, stands⟩

end RecordQuery
