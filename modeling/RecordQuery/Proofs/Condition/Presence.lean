import RecordQuery.Proofs.Condition.Membership
import RecordQuery.Proofs.Condition.Literals
import RecordQuery.Proofs.Condition.Sides

/-!
# Presence and comparison

A record on which a comparison does not fail has one of three properties, and no two of them: a
compared field is absent or null, the comparison holds, or its complement holds. Every place that
looks for a missing value has to mean the same by it: the guards of optional fields, the two sides
of a comparison, the slots, the tests for membership and the test for null.
-/

namespace RecordQuery

open Sql (Expr CompareOp)

/-- One of three statements holds and the two others do not. -/
def ExactlyOne (first second third : Prop) : Prop :=
  (first ∧ ¬ second ∧ ¬ third) ∨ (¬ first ∧ second ∧ ¬ third) ∨ (¬ first ∧ ¬ second ∧ third)

/-! ## Missing fields -/

/-- The field is absent from an object, or null in it. -/
def Accessor.Missing (field : Accessor) (fields : Fields) : Prop :=
  ∀ value, fields.get? field.name = some value → value = .null

theorem Value.eq_null_of_isNull {value : Value} (null : value.isNull = true) : value = .null := by
  cases value <;> first | rfl | cases null

/-- Reading a field gives nothing exactly where it is missing. -/
theorem Accessor.exists_get_object (field : Accessor) (fields : Fields) :
    ∃ found, field.get (.object fields) = .ok found ∧ (found = none ↔ field.Missing fields) := by
  refine ⟨_, rfl, ?_⟩
  unfold Missing
  cases fields.get? field.name with
  | none => simp
  | some value =>
      constructor
      · intro none other same
        cases same
        cases null : value.isNull with
        | true => exact Value.eq_null_of_isNull null
        | false => simp [Option.filter, null] at none
      · intro missing
        rw [missing value rfl]
        rfl

/-- An operand is a field that is missing. -/
def Scope.Lacks (scope : Scope) (fields : Fields) (operand : Expr) : Prop :=
  ∃ field, scope.field? operand = .ok (some field) ∧ field.Missing fields

theorem Scope.lacks_iff {scope : Scope} {fields : Fields} {operand : Expr} {field : Accessor}
    (read : scope.field? operand = .ok (some field)) :
    scope.Lacks fields operand ↔ field.Missing fields := by
  constructor
  · rintro ⟨other, read', missing⟩
    rw [read] at read'
    cases read'
    exact missing
  · intro missing
    exact ⟨field, read, missing⟩

theorem Scope.not_lacks {scope : Scope} {fields : Fields} {operand : Expr}
    (none : scope.field? operand = .ok none) : ¬ scope.Lacks fields operand := by
  rintro ⟨field, read, -⟩
  cases none.symm.trans read

theorem Scope.requireField_of_field? {scope : Scope} {operand : Expr} {field : Accessor}
    (read : scope.field? operand = .ok (some field)) : scope.requireField operand = .ok field := by
  rw [requireField, read]
  rfl

/-! ## Values that are given -/

/-- A conversion to a kind makes null of nothing else. -/
theorem isNull_of_coerce? {kind : ScalarKind} {given value : Value}
    (converted : coerce? kind given = some value) (present : given ≠ .null) :
    value.isNull = false := by
  rw [coerce?.eq_def] at converted
  split at converted
  case h_1 => exact absurd rfl present
  case h_6 | h_7 =>
      rcases Option.map_eq_some_iff.1 converted with ⟨number, -, rfl⟩
      rfl
  case h_10 =>
      split at converted <;> cases converted
      rfl
  case h_11 => cases converted
  all_goals
    cases converted
    rfl

theorem coerce?_of_coerce {name : String} {kind : ScalarKind} {given value : Value}
    (converted : coerce name kind given = .ok value) : coerce? kind given = some value := by
  rw [coerce] at converted
  split at converted
  · cases converted
    assumption
  · cases converted

namespace Condition

/-! ## One record -/

/-- How a comparison, its complement and its negation divide the records: where a compared field is
missing the first two are false, where the first has an answer exactly one of the three properties
holds, and the negation has all that the first has not. -/
structure Divides (missing : Prop) (first second negation : QueryResult Bool) : Prop where
  absent : missing → first = .ok false ∧ second = .ok false
  one : ∀ answer, first = .ok answer →
    ∃ other, second = .ok other ∧ ExactlyOne missing (answer = true) (other = true)
  negation : negation = .ok true ↔ missing ∨ second = .ok true

variable {record : Value} {arguments : Arguments} {condition complement : Condition}
  {missing : Prop}

theorem divides_of_missing (lacks : missing)
    (first : condition.evaluate record arguments = .ok false)
    (second : complement.evaluate record arguments = .ok false) :
    Divides missing (condition.evaluate record arguments) (complement.evaluate record arguments)
      ((Condition.not condition).evaluate record arguments) where
  absent _ := ⟨first, second⟩
  one answer evaluated := by
    rw [first] at evaluated
    cases evaluated
    exact ⟨false, second, .inl ⟨lacks, Bool.false_ne_true, Bool.false_ne_true⟩⟩
  negation := by
    rw [evaluate, first]
    exact iff_of_true rfl (.inl lacks)

theorem divides_of_present {answer : Bool} (has : ¬ missing)
    (first : condition.evaluate record arguments = .ok answer)
    (second : complement.evaluate record arguments = .ok !answer) :
    Divides missing (condition.evaluate record arguments) (complement.evaluate record arguments)
      ((Condition.not condition).evaluate record arguments) where
  absent lacks := absurd lacks has
  one other evaluated := by
    rw [first] at evaluated
    cases evaluated
    refine ⟨!answer, second, .inr ?_⟩
    cases answer with
    | true => exact .inl ⟨has, rfl, Bool.false_ne_true⟩
    | false => exact .inr ⟨has, Bool.false_ne_true, rfl⟩
  negation := by
    rw [evaluate, first, second, or_iff_right has]
    exact Iff.rfl

theorem divides_of_error {error error' : QueryError} (has : ¬ missing)
    (first : condition.evaluate record arguments = .error error)
    (second : complement.evaluate record arguments = .error error') :
    Divides missing (condition.evaluate record arguments) (complement.evaluate record arguments)
      ((Condition.not condition).evaluate record arguments) where
  absent lacks := absurd lacks has
  one answer evaluated := by
    rw [first] at evaluated
    cases evaluated
  negation := by
    rw [evaluate, first, second, or_iff_right has]
    constructor
    · intro same
      cases same
    · intro same
      cases same

/-- Comparisons with complementary operators on the same sides divide the records. -/
theorem divides_outcome {name : String} {kind : ScalarKind} {op : CompareOp}
    {left right : Option Value} (same : missing ↔ left = none ∨ right = none)
    (first : condition.evaluate record arguments = outcome name kind op left right)
    (second : complement.evaluate record arguments = outcome name kind op.complement left right) :
    Divides missing (condition.evaluate record arguments) (complement.evaluate record arguments)
      ((Condition.not condition).evaluate record arguments) := by
  by_cases lacks : missing
  · have none := same.1 lacks
    rw [outcome_of_missing none] at first second
    exact divides_of_missing lacks first second
  · have has := mt same.2 lacks
    cases left with
    | none => exact absurd (.inl rfl) has
    | some value =>
        cases right with
        | none => exact absurd (.inr rfl) has
        | some other =>
            simp only [outcome] at first second
            cases compared : compareValues kind value other with
            | none =>
                rw [compared] at first second
                exact divides_of_error lacks first second
            | some order =>
                simp only [compared, CompareOp.holds_complement] at first second
                exact divides_of_present lacks first second

end Condition

namespace Binding

/-- What a run with some arguments is given, where the binding is a part of that of a whole
statement. -/
def Gives (binding : Binding) (args : List Value) (arguments : Arguments) : Prop :=
  ∃ final, binding.StartOf final ∧ final.Ordered ∧ final.expand args = .ok arguments

end Binding

namespace Condition

/-! ## Comparisons -/

variable {scope : Scope} {binding bound : Binding} {condition : Condition} {field : Accessor}
  {operand right : Expr} {op : CompareOp}

theorem literal?_of_ofOperand (other : ∀ index, right ≠ .placeholder index)
    (found : ofOperand field op right binding = .ok (condition, bound)) :
    ∃ value, right.literal? = some value := by
  rcases Outcome.bind_eq_ok.1 found with ⟨kind, -, found⟩
  split at found
  · exact ⟨.null, rfl⟩
  · exact absurd rfl (other _)
  · split at found
    · cases found
    · rename_i value known
      exact ⟨value, known⟩

theorem isNull_of_fitsKind {kind : ScalarKind} {value : Value} (fits : fitsKind kind value = true) :
    value.isNull = false := by
  cases value with
  | null => cases kind <;> cases fits
  | _ => rfl

theorem operandValue_slot {record : Value} {arguments : Arguments} {slot : Nat}
    (present : (arguments.value slot).isNull = false) :
    operandValue record arguments (.slot slot) = .ok (some (arguments.value slot)) := by
  rw [operandValue, present]
  rfl

/-- A placeholder is given a value other than null. -/
def NotNull (binding : Binding) (args : List Value) (right : Expr) : Prop :=
  ∀ index, right = .placeholder index → args.getD binding.placeholders .null ≠ .null

/-- A side other than a field or `NULL` is the same with every operator. It is the value of a slot
or a constant, and that is not null. -/
theorem side_of_ofOperand (notNull : right ≠ .null)
    (found : ofOperand field op right binding = .ok (condition, bound)) :
    ∃ kind side, condition = guardedBy field (.compare field op side kind) ∧
      (∀ op, ofOperand field op right binding =
        .ok (guardedBy field (.compare field op side kind), bound)) ∧
      ∀ args arguments, bound.Gives args arguments → NotNull binding args right →
        ∀ record, ∃ value, operandValue record arguments side = .ok (some value) := by
  by_cases placeholder : ∃ index, right = .placeholder index
  · rcases placeholder with ⟨index, rfl⟩
    rcases Outcome.bind_eq_ok.1 found with ⟨kind, known, same⟩
    cases same
    refine ⟨kind, .slot binding.slots.length, rfl, ?_, ?_⟩
    · intro op
      rw [ofOperand.eq_def, known]
      rfl
    · rintro args arguments ⟨final, start, ordered, expanded⟩ present record
      have converted := coerce?_of_coerce (Binding.value_of_addPlaceholder start ordered expanded)
      have value := isNull_of_coerce? converted (present index rfl)
      exact ⟨_, operandValue_slot value⟩
  · have other (index : Nat) : right ≠ .placeholder index := fun same => placeholder ⟨index, same⟩
    rcases literal?_of_ofOperand other found with ⟨value, known⟩
    rw [ofOperand_of_literal? known notNull] at found
    rcases Outcome.bind_eq_ok.1 found with ⟨kind, compared, made⟩
    split at made
    · rename_i fits
      cases made
      refine ⟨kind, .constant value, rfl, ?_, ?_⟩
      · intro op
        rw [ofOperand_of_literal? known notNull, compared, Outcome.ok_bind, if_pos fits]
        rfl
      · intro args arguments gives present record
        rw [operandValue, isNull_of_fitsKind fits]
        exact ⟨value, rfl⟩
    · cases made

/-- A comparison of a field and its complement divide the records. -/
theorem divides_of_ofComparison (read : scope.field? operand = .ok (some field))
    (notNull : right ≠ .null)
    (found : ofComparison scope operand op right binding = .ok (condition, bound)) :
    ∃ complement,
      ofComparison scope operand op.complement right binding = .ok (complement, bound) ∧
      ∀ args arguments, bound.Gives args arguments → NotNull binding args right →
        ∀ fields, Divides (scope.Lacks fields operand ∨ scope.Lacks fields right)
          (condition.evaluate (.object fields) arguments)
          (complement.evaluate (.object fields) arguments)
          ((Condition.not condition).evaluate (.object fields) arguments) := by
  rw [ofComparison, read, Outcome.ok_bind] at found ⊢
  rcases Outcome.bind_eq_ok.1 found with ⟨other, readRight, found⟩
  rw [readRight, Outcome.ok_bind]
  cases other with
  | some other =>
      dsimp only at found ⊢
      rw [ofFields_eq] at found
      rcases Outcome.bind_eq_ok.1 found with ⟨_, made, same⟩
      rcases Outcome.bind_eq_ok.1 made with ⟨kind, known, same'⟩
      cases same'
      cases same
      refine ⟨_, by rw [ofFields_eq, known]; rfl, ?_⟩
      intro args arguments gives present fields
      rcases field.exists_get_object fields with ⟨a, held, missing⟩
      rcases other.exists_get_object fields with ⟨b, held', missing'⟩
      refine divides_outcome ?_ (evaluate_guardedBy_fields held held')
        (evaluate_guardedBy_fields held held')
      rw [Scope.lacks_iff read, Scope.lacks_iff readRight, missing, missing']
  | none =>
      obtain ⟨kind, side, rfl, each, value⟩ := side_of_ofOperand notNull found
      refine ⟨_, each op.complement, ?_⟩
      intro args arguments gives present fields
      rcases value args arguments gives present (.object fields) with ⟨other, given⟩
      rcases field.exists_get_object fields with ⟨a, held, missing⟩
      refine divides_outcome ?_ (evaluate_guardedBy_compare held given)
        (evaluate_guardedBy_compare held given)
      rw [or_iff_left (Scope.not_lacks readRight), Scope.lacks_iff read, missing]
      simp

/-! ## Tests for membership -/

/-- A set has been made for the group of a test for membership. -/
theorem set_of_addMembership {name : String} {kind : ScalarKind} {values : List (Option Value)}
    {group : Nat} (added : binding.addMembership name kind values = (.ok group, bound))
    {args : List Value} {arguments : Arguments} (gives : bound.Gives args arguments) :
    ∃ set, arguments.set? group = some set := by
  rcases gives with ⟨final, start, ordered, expanded⟩
  rw [Binding.addMembership] at added
  split at added
  · rename_i filled pushed
    cases added
    rcases Binding.grown_of_pushItems pushed with ⟨more, grown⟩
    obtain ⟨found, -, -, set⟩ :=
      Binding.expanded_of_pushGroup grown.slots grown.groups start ordered expanded
    exact ⟨_, set⟩
  · cases added

theorem ofNullTest_of_requireField (required : scope.requireField operand = .ok field)
    (negated : Bool) : ofNullTest scope negated operand = .ok (.isNull field negated) := by
  cases operand with
  | null => cases required
  | _ =>
      rw [ofNullTest, required]
      · rfl
      · nofun

/-- A test for membership is false of a missing field, with and without a negation, and else the
negation tells the two apart. -/
theorem evaluate_guardedBy_member {group : Nat} {set : MemberSet} {arguments : Arguments}
    (known : arguments.set? group = some set) {record : Value} {found : Option Value}
    (held : field.get record = .ok found) (negated : Bool) :
    (guardedBy field (.member field group negated)).evaluate record arguments =
      .ok (found.any fun value => set.contains value != negated) := by
  have tested : (Condition.member field group negated).evaluate record arguments =
      .ok (found.any fun value => set.contains value != negated) := by
    rw [evaluate, held, Outcome.ok_bind]
    cases found with
    | none => rfl
    | some value =>
        dsimp only
        rw [known]
        rfl
  rw [evaluate_guardedBy_of_get held, tested]
  intro absent
  rw [tested, absent]
  rfl

/-- A comparison of a field divides the objects: exactly one of three properties holds where it has
an answer, namely that a compared field is missing, that it holds, or that its complement holds. Its
negation holds in the first case and in the last, and nothing fails in the first. Likewise exactly
one of the tests whether the field is null, is in a list and is not in it holds, and none of them
fails. -/
theorem ofExpr_divides (read : scope.field? operand = .ok (some field)) :
    (∀ op right binding condition bound, right ≠ .null →
      ofExpr scope (.binary (.compare op) operand right) binding = .ok (condition, bound) →
      ∃ complement,
        ofExpr scope (.binary (.compare op.complement) operand right) binding =
          .ok (complement, bound) ∧
        ofExpr scope (.not (.binary (.compare op) operand right)) binding =
          .ok (.not condition, bound) ∧
        ∀ args arguments, bound.Gives args arguments → NotNull binding args right →
          ∀ fields, Divides (scope.Lacks fields operand ∨ scope.Lacks fields right)
            (condition.evaluate (.object fields) arguments)
            (complement.evaluate (.object fields) arguments)
            ((Condition.not condition).evaluate (.object fields) arguments)) ∧
    ∀ items binding condition bound,
      ofExpr scope (.inList operand items false) binding = .ok (condition, bound) →
      ∃ others missing,
        ofExpr scope (.inList operand items true) binding = .ok (others, bound) ∧
        ofExpr scope (.isNull operand) binding = .ok (missing, binding) ∧
        ∀ args arguments, bound.Gives args arguments → ∀ fields, ∃ isNull isIn notIn,
          missing.evaluate (.object fields) arguments = .ok isNull ∧
          condition.evaluate (.object fields) arguments = .ok isIn ∧
          others.evaluate (.object fields) arguments = .ok notIn ∧
          (isNull = true ↔ scope.Lacks fields operand) ∧
          ExactlyOne (isNull = true) (isIn = true) (notIn = true) := by
  have required := Scope.requireField_of_field? read
  constructor
  · intro op right binding condition bound notNull found
    rw [ofExpr] at found
    rcases divides_of_ofComparison read notNull found with ⟨complement, made, divides⟩
    refine ⟨complement, by rw [ofExpr, made], ?_, divides⟩
    rw [ofExpr, ofExpr, found]
    rfl
  · intro items binding condition bound found
    rw [ofExpr] at found
    obtain ⟨own, kind, values, group, required', set, listed, added, rfl⟩ :=
      ofMembership_iff.1 found
    cases required.symm.trans required'
    refine ⟨guardedBy field (.member field group true), .isNull field false, ?_, ?_, ?_⟩
    · rw [ofExpr]
      exact ofMembership_iff.2 ⟨field, kind, values, group, required, set, listed, added, rfl⟩
    · rw [ofExpr, ofNullTest_of_requireField required]
      rfl
    · intro args arguments gives fields
      rcases set_of_addMembership added gives with ⟨members, known⟩
      rcases field.exists_get_object fields with ⟨found, held, missing⟩
      refine ⟨found.isNone, _, _, ?_, evaluate_guardedBy_member known held false,
        evaluate_guardedBy_member known held true, ?_, ?_⟩
      · rw [evaluate, held]
        simp
      · rw [Scope.lacks_iff read, ← missing, Option.isNone_iff_eq_none]
      · cases found with
        | none => exact .inl ⟨rfl, Bool.false_ne_true, Bool.false_ne_true⟩
        | some value =>
            cases answer : members.contains value <;> simp [ExactlyOne, answer]

theorem ofExpr_divides_tally :
    (∃ condition complement bound arguments other,
      ofExpr tally (.binary (.compare .lt) (.column "Count") (.placeholder 0)) .empty =
        .ok (condition, bound) ∧
      ofExpr tally (.binary (.compare .ge) (.column "Count") (.placeholder 0)) .empty =
        .ok (complement, bound) ∧
      bound.Gives [.ofInt64 5] arguments ∧
      (Condition.not condition).evaluate (.object []) arguments = .ok true ∧
      condition.evaluate (.object [("Count", .ofInt64 3)]) arguments = .ok true ∧
      complement.evaluate (.object [("Count", .ofInt64 3)]) arguments = .ok other ∧
      ExactlyOne (tally.Lacks [("Count", .ofInt64 3)] (.column "Count") ∨
        tally.Lacks [("Count", .ofInt64 3)] (.placeholder 0)) (true = true) (other = true)) ∧
    ∃ condition bound arguments isNull isIn notIn,
      ofExpr tally (.inList (.column "Count") [.integer 3] false) .empty = .ok (condition, bound) ∧
      bound.Gives [] arguments ∧
      condition.evaluate (.object [("Count", .ofInt64 3)]) arguments = .ok isIn ∧
      ExactlyOne (isNull = true) (isIn = true) (notIn = true) := by
  constructor
  · obtain ⟨⟨condition, bound⟩, found⟩ : ∃ made,
        ofExpr tally (.binary (.compare .lt) (.column "Count") (.placeholder 0)) .empty =
          .ok made := ⟨_, rfl⟩
    have ordered := (ofExpr_eq_ok found).1.ordered Binding.ordered_empty
    obtain ⟨complement, made, -, divides⟩ :=
      (@ofExpr_divides tally _ (.column "Count") rfl).1 .lt (.placeholder 0) .empty condition bound
        nofun found
    cases found
    have gives : Binding.Gives _ [.ofInt64 5] ⟨[.ofInt64 5], [none]⟩ :=
      ⟨_, .refl _, ordered, rfl⟩
    have notNull : NotNull .empty [.ofInt64 5] (.placeholder 0) := nofun
    have missing : tally.Lacks [] (.column "Count") := ⟨_, rfl, nofun⟩
    have negation := (divides _ _ gives notNull []).negation.2 (.inl (.inl missing))
    obtain ⟨other, evaluated, one⟩ :=
      (divides _ _ gives notNull [("Count", .ofInt64 3)]).one true rfl
    exact ⟨_, complement, _, _, other, rfl, made, gives, negation, rfl, evaluated, one⟩
  · obtain ⟨⟨condition, bound⟩, found⟩ : ∃ made,
        ofExpr tally (.inList (.column "Count") [.integer 3] false) .empty = .ok made := ⟨_, rfl⟩
    have ordered := (ofExpr_eq_ok found).1.ordered Binding.ordered_empty
    obtain ⟨others, missing, -, -, divides⟩ :=
      (@ofExpr_divides tally _ (.column "Count") rfl).2 [.integer 3] .empty condition bound found
    cases found
    have gives : Binding.Gives _ [] ⟨[.ofInt64 3], [some (.ints [3])]⟩ :=
      ⟨_, .refl _, ordered, rfl⟩
    obtain ⟨isNull, isIn, notIn, -, evaluated, -, -, one⟩ :=
      divides _ _ gives [("Count", .ofInt64 3)]
    exact ⟨_, _, _, isNull, isIn, notIn, rfl, gives, evaluated, one⟩

end Condition

end RecordQuery
