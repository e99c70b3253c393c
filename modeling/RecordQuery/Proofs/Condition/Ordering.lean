import RecordQuery.Proofs.Condition.Membership
import RecordQuery.Proofs.Number.Rounding

/-!
# Orders of values

Texts, truth values and moments are ordered linearly, and so are two numbers that are both signed
words or both doubles. Any other two numbers are compared as nearest doubles, which may blur two
numbers that differ. A blurred comparison never turns the order around, so the orders fail to be
transitive in one place only: where a number beyond the signed words joins two of them that differ.
-/

namespace RecordQuery

/-! ## Doubles -/

namespace Double

theorem isLE_order {x y : Double} : (x.order y).isLE = true ↔ x.units ≤ y.units :=
  Std.isLE_compare

theorem order_swap (x y : Double) : y.order x = (x.order y).swap :=
  Std.OrientedOrd.eq_swap

end Double

/-! ## Numbers -/

namespace Number

/-- Two numbers that comparisons cannot tell apart: their values differ, but one of them is no
signed word and they have the same nearest double. -/
structure Blurs (a b : Number) : Prop where
  different : a.units ≠ b.units
  beyond : a.signed? = none ∨ b.signed? = none
  rounded : a.toDouble.order b.toDouble = .eq

/-- Numbers that comparisons put in a circle: a signed word, a number that is none, and a lesser
signed word, which all have the same nearest double. -/
structure Jumps (a b c : Number) : Prop where
  first : a.signed?.isSome
  middle : b.signed? = none
  last : c.signed?.isSome
  falls : c.units < a.units
  entering : a.toDouble.order b.toDouble = .eq
  leaving : b.toDouble.order c.toDouble = .eq

variable {a b c : Number}

theorem signed_or_beyond (a b : Number) :
    (a.signed?.isSome ∧ b.signed?.isSome) ∨ (a.signed? = none ∨ b.signed? = none) := by
  cases a.signed? <;> cases b.signed? <;> simp

theorem exists_int_of_signed? {word : Int64} (signed : a.signed? = some word) :
    ∃ n, a = .int n ∧ word.toInt = n.val := by
  cases a with
  | int n => exact ⟨n, rfl, WordInt.toInt_of_signed? signed⟩
  | float x => cases signed

theorem order_of_signed (first : a.signed?.isSome) (second : b.signed?.isSome) :
    a.order b = compare a.units b.units := by
  cases left : a.signed? with
  | none => simp [left] at first
  | some x =>
      cases right : b.signed? with
      | none => simp [right] at second
      | some y =>
          rcases exists_int_of_signed? left with ⟨n, rfl, value⟩
          rcases exists_int_of_signed? right with ⟨m, rfl, value'⟩
          rw [compare_units_int, order, left, right, ← value, ← value']

theorem order_of_beyond (beyond : a.signed? = none ∨ b.signed? = none) :
    a.order b = a.toDouble.order b.toDouble := by
  unfold order
  rcases beyond with beyond | beyond
  · rw [beyond]
  · rw [beyond]
    cases a.signed? <;> rfl

/-- Nearest doubles are ordered as the numbers are, unless they are the same. -/
theorem order_toDouble (a b : Number) :
    a.toDouble.order b.toDouble = .eq ∨
      a.toDouble.order b.toDouble = compare a.units b.units := by
  unfold Double.order
  rw [units_toDouble, units_toDouble]
  rcases Int.lt_trichotomy a.units b.units with less | same | greater
  · have rounded := Double.nearest_mono (Int.le_of_lt less)
    rw [Int.compare_eq_lt.2 less, Int.compare_eq_eq, Int.compare_eq_lt]
    omega
  · rw [same, Int.compare_eq_eq.2 rfl, Int.compare_eq_eq.2 rfl]
    exact .inl rfl
  · have rounded := Double.nearest_mono (Int.le_of_lt greater)
    rw [Int.compare_eq_gt.2 greater, Int.compare_eq_eq, Int.compare_eq_gt]
    omega

/-- A comparison of two numbers is one of their values unless they are blurred. -/
theorem order_eq_compare_iff (a b : Number) :
    a.order b = compare a.units b.units ↔ ¬ a.Blurs b := by
  have apart (blurs : a.Blurs b) : compare a.units b.units ≠ .eq := by
    intro equal
    exact blurs.different (Int.compare_eq_eq.1 equal)
  rcases signed_or_beyond a b with ⟨first, second⟩ | beyond
  · refine iff_of_true (order_of_signed first second) ?_
    intro blurs
    rcases blurs.beyond with none | none
    · simp [none] at first
    · simp [none] at second
  · rw [order_of_beyond beyond]
    constructor
    · intro faithful blurs
      exact apart blurs (faithful.symm.trans blurs.rounded)
    · intro clear
      rcases order_toDouble a b with rounded | faithful
      · by_cases same : a.units = b.units
        · rw [rounded, Int.compare_eq_eq.2 same]
        · exact absurd ⟨same, beyond, rounded⟩ clear
      · exact faithful

theorem blurs_int_iff {n m : WordInt} : Blurs (.int n) (.int m) ↔ n.Blurs m := by
  have values : units (.int n) = units (.int m) ↔ n = m := by
    rw [← Int.compare_eq_eq, compare_units_int, Int.compare_eq_eq, WordInt.ext_iff]
  constructor
  · intro blurs
    exact ⟨mt values.2 blurs.different, blurs.beyond, blurs.rounded⟩
  · intro blurs
    exact ⟨mt values.1 blurs.different, blurs.beyond, blurs.rounded⟩

theorem order_swap (a b : Number) : b.order a = (a.order b).swap := by
  unfold order
  cases a.signed? with
  | none => cases b.signed? <;> exact Double.order_swap _ _
  | some x =>
      cases b.signed? with
      | none => exact Double.order_swap _ _
      | some y => exact Std.OrientedOrd.eq_swap

/-- Nearest doubles are never in the opposite order. -/
theorem isLE_toDouble (atMost : (a.order b).isLE = true) :
    (a.toDouble.order b.toDouble).isLE = true := by
  rcases signed_or_beyond a b with ⟨first, second⟩ | beyond
  · rw [order_of_signed first second] at atMost
    rcases order_toDouble a b with same | faithful
    · rw [same]
      rfl
    · rwa [faithful]
  · rwa [order_of_beyond beyond] at atMost

/-- Two steps upwards lead upwards unless the numbers are in a circle. -/
theorem isLE_trans_iff (entering : (a.order b).isLE = true) (leaving : (b.order c).isLE = true) :
    (a.order c).isLE = true ↔ ¬ a.Jumps b c := by
  have entering' := Double.isLE_order.1 (isLE_toDouble entering)
  have leaving' := Double.isLE_order.1 (isLE_toDouble leaving)
  rcases signed_or_beyond a c with ⟨first, last⟩ | beyond
  · rw [order_of_signed first last, Std.isLE_compare]
    cases middle : b.signed? with
    | some word =>
        have signed : b.signed?.isSome := by rw [middle]; rfl
        rw [order_of_signed first signed, Std.isLE_compare] at entering
        rw [order_of_signed signed last, Std.isLE_compare] at leaving
        refine iff_of_true (Int.le_trans entering leaving) ?_
        intro jumps
        cases middle.symm.trans jumps.middle
    | none =>
        constructor
        · intro rises jumps
          exact Int.not_lt.2 rises jumps.falls
        · intro straight
          by_contra falls
          have falls := Int.not_le.1 falls
          have rounded := Double.nearest_mono (Int.le_of_lt falls)
          rw [← units_toDouble, ← units_toDouble] at rounded
          refine straight ⟨first, middle, last, falls, ?_, ?_⟩
          · exact Int.compare_eq_eq.2 (by omega)
          · exact Int.compare_eq_eq.2 (by omega)
  · rw [order_of_beyond beyond, Double.isLE_order]
    refine iff_of_true (Int.le_trans entering' leaving') ?_
    intro jumps
    rcases beyond with none | none
    · simpa [none] using jumps.first
    · simpa [none] using jumps.last

end Number

/-! ## Times -/

instance : Std.TransCmp Instant.order :=
  inferInstanceAs (Std.TransCmp (compareLex (compareOn Instant.second) (compareOn Instant.nano)))

theorem timeOrder_swap (a b : String) : timeOrder b a = (timeOrder a b).swap := by
  unfold timeOrder
  cases Instant.read? a with
  | none => cases Instant.read? b <;> exact Std.OrientedOrd.eq_swap
  | some x =>
      cases Instant.read? b with
      | none => exact Std.OrientedOrd.eq_swap
      | some y => exact @Std.OrientedCmp.eq_swap _ Instant.order _ y x

theorem timeOrder_isLE_trans {a b c : String} (first : Instant.isText a = true)
    (second : Instant.isText b = true) (third : Instant.isText c = true)
    (entering : (timeOrder a b).isLE = true) (leaving : (timeOrder b c).isLE = true) :
    (timeOrder a c).isLE = true := by
  rcases Option.isSome_iff_exists.1 first with ⟨x, read⟩
  rcases Option.isSome_iff_exists.1 second with ⟨y, read'⟩
  rcases Option.isSome_iff_exists.1 third with ⟨z, read''⟩
  simp only [timeOrder, read, read', read''] at entering leaving ⊢
  exact Std.TransCmp.isLE_trans entering leaving

/-! ## Values -/

/-- A comparison of exchanged values gives the reverse order, and none where there was none. -/
theorem compareValues_swap (kind : ScalarKind) (a b : Value) :
    compareValues kind b a = (compareValues kind a b).map Ordering.swap := by
  cases kind <;> cases a <;> cases b <;> try rfl
  case int.number.number n m | float.number.number n m =>
      exact congrArg some (Number.order_swap n m)
  case time.string.string s t => exact congrArg some (timeOrder_swap s t)
  all_goals exact congrArg some Std.OrientedOrd.eq_swap

/-- Whether a value is at most another one of its kind. -/
def AtMost (kind : ScalarKind) (a b : Value) : Prop :=
  ∃ order, compareValues kind a b = some order ∧ order.isLE = true

/-- Numbers among three values that comparisons put in a circle. -/
def Value.Jumps (a b c : Value) : Prop :=
  ∃ first middle last, a = .number first ∧ b = .number middle ∧ c = .number last ∧
    Number.Jumps first middle last

variable {kind : ScalarKind} {a b c : Value}

theorem atMost_of_compareValues {order : Ordering}
    (compared : compareValues kind a b = some order) : AtMost kind a b ↔ order.isLE = true := by
  constructor
  · rintro ⟨other, compared', atMost⟩
    rw [compared] at compared'
    cases compared'
    exact atMost
  · intro atMost
    exact ⟨order, compared, atMost⟩

/-- What the instances of a kind are. -/
theorem ScalarKind.form_of_accepts (accepted : kind.accepts a = true) :
    match kind with
    | .int | .float => ∃ n, a = .number n
    | .bool => ∃ x, a = .bool x
    | .string => ∃ s, a = .string s
    | .time => ∃ s, a = .string s ∧ Instant.isText s = true := by
  cases kind <;> cases a <;> try cases accepted
  case time.string s => exact ⟨s, rfl, accepted⟩
  all_goals exact ⟨_, rfl⟩

theorem compareValues_number (numeric : kind.isNumeric = true) (n m : Number) :
    compareValues kind (.number n) (.number m) = some (n.order m) := by
  cases kind <;> first | rfl | cases numeric

theorem ScalarKind.number_of_accepts (numeric : kind.isNumeric = true)
    (accepted : kind.accepts a = true) : ∃ n, a = .number n := by
  have form := ScalarKind.form_of_accepts accepted
  cases kind <;> first | exact form | cases numeric

theorem ScalarKind.isNumeric_of_accepts {n : Number} (accepted : kind.accepts (.number n) = true) :
    kind.isNumeric = true := by
  cases kind <;> first | rfl | cases accepted

/-- Instances of a kind other than numbers are ordered transitively. -/
theorem atMost_trans (plain : kind.isNumeric = false) (first : kind.accepts a = true)
    (second : kind.accepts b = true) (third : kind.accepts c = true) (entering : AtMost kind a b)
    (leaving : AtMost kind b c) : AtMost kind a c := by
  have form := ScalarKind.form_of_accepts first
  have form' := ScalarKind.form_of_accepts second
  have form'' := ScalarKind.form_of_accepts third
  cases kind with
  | int => cases plain
  | float => cases plain
  | bool | string =>
      rcases form with ⟨x, rfl⟩
      rcases form' with ⟨y, rfl⟩
      rcases form'' with ⟨z, rfl⟩
      rw [atMost_of_compareValues rfl] at entering leaving ⊢
      exact Std.TransCmp.isLE_trans entering leaving
  | time =>
      rcases form with ⟨s, rfl, moment⟩
      rcases form' with ⟨t, rfl, moment'⟩
      rcases form'' with ⟨u, rfl, moment''⟩
      rw [atMost_of_compareValues rfl] at entering leaving ⊢
      exact timeOrder_isLE_trans moment moment' moment'' entering leaving

/-- Instances of a kind are ordered transitively but for numbers in a circle. -/
theorem atMost_trans_iff (first : kind.accepts a = true) (second : kind.accepts b = true)
    (third : kind.accepts c = true) (entering : AtMost kind a b) (leaving : AtMost kind b c) :
    AtMost kind a c ↔ ¬ a.Jumps b c := by
  cases numeric : kind.isNumeric with
  | true =>
      rcases ScalarKind.number_of_accepts numeric first with ⟨n, rfl⟩
      rcases ScalarKind.number_of_accepts numeric second with ⟨m, rfl⟩
      rcases ScalarKind.number_of_accepts numeric third with ⟨l, rfl⟩
      rw [atMost_of_compareValues (compareValues_number numeric _ _)] at entering leaving ⊢
      rw [Number.isLE_trans_iff entering leaving]
      simp [Value.Jumps]
  | false =>
      refine iff_of_true (atMost_trans numeric first second third entering leaving) ?_
      rintro ⟨n, -, -, rfl, -⟩
      cases numeric.symm.trans (ScalarKind.isNumeric_of_accepts first)

/-- Instances of a kind are always ordered, and the other way round in the reverse order. Numbers
are ordered by their values unless they are blurred, whole numbers in particular, and the order is
transitive but for numbers in a circle. -/
theorem compareValues_of_accepts (first : kind.accepts a = true) (second : kind.accepts b = true)
    (third : kind.accepts c = true) :
    ∃ order, compareValues kind a b = some order ∧ compareValues kind b a = some order.swap ∧
      (∀ n m, a = .number n → b = .number m →
        (order = compare n.units m.units ↔ ¬ n.Blurs m)) ∧
      (∀ n m, a = .number (.int n) → b = .number (.int m) →
        (order = compare n.val m.val ↔ ¬ n.Blurs m)) ∧
      (AtMost kind a b → AtMost kind b c → (AtMost kind a c ↔ ¬ a.Jumps b c)) := by
  rcases compareValues_of_compares (ScalarKind.compares_of_accepts first)
    (ScalarKind.compares_of_accepts second) with ⟨order, compared⟩
  have numbers (n m : Number) (isFirst : a = .number n) (isSecond : b = .number m) :
      order = n.order m := by
    subst isFirst isSecond
    rw [compareValues_number (ScalarKind.isNumeric_of_accepts first)] at compared
    exact (Option.some.inj compared).symm
  refine ⟨order, compared, ?_, ?_, ?_, atMost_trans_iff first second third⟩
  · rw [compareValues_swap, compared, Option.map_some]
  · intro n m isFirst isSecond
    rw [numbers n m isFirst isSecond, Number.order_eq_compare_iff]
  · intro n m isFirst isSecond
    rw [numbers _ _ isFirst isSecond, ← Number.compare_units_int, Number.order_eq_compare_iff,
      Number.blurs_int_iff]

theorem compareValues_of_accepts_pastGreatest :
    ∃ order,
      compareValues .int (.ofInt64 3) (.number (.int Condition.pastGreatest)) = some order ∧
      compareValues .int (.number (.int Condition.pastGreatest)) (.ofInt64 3) = some order.swap ∧
      order = compare 3 9223372036854775808 := by
  obtain ⟨order, compared, reversed, -, faithful, -⟩ :=
    @compareValues_of_accepts .int (.ofInt64 3) (.number (.int Condition.pastGreatest)) (.ofInt64 3)
      rfl rfl rfl
  have apart : (WordInt.ofInt64 3).toDouble.order Condition.pastGreatest.toDouble ≠ .eq := by
    decide +kernel
  refine ⟨order, compared, reversed, (faithful _ _ rfl rfl).2 ?_⟩
  intro blurs
  exact apart blurs.rounded

/-- The number behind the greatest signed word equals that word and the one before it, and the two
words are in the opposite order. -/
theorem compareValues_greatest :
    compareValues .int (.number (.int Condition.greatest)) (.number (.int Condition.pastGreatest)) =
        some .eq ∧
      Condition.greatest.val < Condition.pastGreatest.val ∧
      AtMost .int (.number (.int Condition.greatest)) (.number (.int Condition.pastGreatest)) ∧
      AtMost .int (.number (.int Condition.pastGreatest)) (.ofInt64 9223372036854775806) ∧
      ¬ AtMost .int (.number (.int Condition.greatest)) (.ofInt64 9223372036854775806) := by
  have entering : compareValues .int (.number (.int Condition.greatest))
      (.number (.int Condition.pastGreatest)) = some .eq := by
    decide +kernel
  have leaving : compareValues .int (.number (.int Condition.pastGreatest))
      (.ofInt64 9223372036854775806) = some .eq := by
    decide +kernel
  have falls : compareValues .int (.number (.int Condition.greatest))
      (.ofInt64 9223372036854775806) = some .gt := by
    decide +kernel
  refine ⟨entering, by decide, ⟨_, entering, rfl⟩, ⟨_, leaving, rfl⟩, ?_⟩
  rw [atMost_of_compareValues falls]
  nofun

end RecordQuery
