import RecordQuery.Proofs.Condition.Taking

/-!
# Literals and arguments

A literal that is compared with a field, or that stands in an `IN` list, may as well be a placeholder
with its value as the argument. A literal is checked against the kind of the field or converted to it
when the expression is bound, an argument when a run begins; but both come to the same value. So the
expression is still bound, its arguments expand, and it says the same about every record.
-/

namespace RecordQuery

open Sql (Expr CompareOp)

/-! ## Replacing literals -/

/-- Items of an `IN` list, each with the arguments that it takes, and the same items where some
literals have been replaced by placeholders for their values. -/
inductive LiftsEach : List Expr → List Value → List Expr → List Value → Prop where
  | nil : LiftsEach [] [] [] []
  | kept {item item' : Expr} {items items' : List Expr} {own args args' : List Value}
      (same : item.unnumbered = item'.unnumbered) (count : own.length = item.placeholders.length)
      (rest : LiftsEach items args items' args') :
      LiftsEach (item :: items) (own ++ args) (item' :: items') (own ++ args')
  | lifted {item : Expr} {value : Value} {items items' : List Expr} {args args' : List Value}
      (known : item.literal? = some value) (notNull : item ≠ .null) (index : Nat)
      (rest : LiftsEach items args items' args') :
      LiftsEach (item :: items) args (.placeholder index :: items') (value :: args')

/-- An expression with its arguments, and the same expression where some literals have been replaced
by placeholders for their values. What is kept has the same arguments; the numbers of placeholders
are free. NULL is not replaced, nor is a float that is compared with an integer. -/
inductive Scope.Lifts (scope : Scope) : Expr → List Value → Expr → List Value → Prop where
  | kept {expr expr' : Expr} {args : List Value} (same : expr.unnumbered = expr'.unnumbered)
      (count : args.length = expr.placeholders.length) : Lifts scope expr args expr' args
  | and {left right left' right' : Expr} {first second first' second' : List Value}
      (one : Lifts scope left first left' first') (two : Lifts scope right second right' second') :
      Lifts scope (.binary .and left right) (first ++ second) (.binary .and left' right')
        (first' ++ second')
  | or {left right left' right' : Expr} {first second first' second' : List Value}
      (one : Lifts scope left first left' first') (two : Lifts scope right second right' second') :
      Lifts scope (.binary .or left right) (first ++ second) (.binary .or left' right')
        (first' ++ second')
  | not {operand operand' : Expr} {args args' : List Value}
      (inner : Lifts scope operand args operand' args') :
      Lifts scope (.not operand) args (.not operand') args'
  | right {left right : Expr} {field : Accessor} {value : Value} (op : CompareOp) (index : Nat)
      (read : scope.field? left = .ok (some field)) (known : right.literal? = some value)
      (notNull : right ≠ .null) (whole : field.schema.kind? = some .int → ∀ x, right ≠ .float x) :
      Lifts scope (.binary (.compare op) left right) []
        (.binary (.compare op) left (.placeholder index)) [value]
  | left {left right : Expr} {field : Accessor} {value : Value} (op : CompareOp) (index : Nat)
      (read : scope.field? right = .ok (some field)) (known : left.literal? = some value)
      (notNull : left ≠ .null) (whole : field.schema.kind? = some .int → ∀ x, left ≠ .float x) :
      Lifts scope (.binary (.compare op) left right) []
        (.binary (.compare op) (.placeholder index) right) [value]
  | member {items items' : List Expr} {args args' : List Value} (operand : Expr) (negated : Bool)
      (each : LiftsEach items args items' args') :
      Lifts scope (.inList operand items negated) args (.inList operand items' negated) args'

/-! ## Literals -/

theorem Scope.field?_of_literal? {scope : Scope} {expr : Expr} {value : Value}
    (known : expr.literal? = some value) : scope.field? expr = .ok none := by
  cases expr <;> first | rfl | cases known

/-- A literal that may be compared with a kind is a value of it already, other than a float for an
integer. -/
theorem coerce?_of_fitsKind {kind : ScalarKind} {value : Value}
    (fits : Condition.fitsKind kind value = true)
    (whole : kind = .int → ∀ x, value ≠ .number (.float x)) : coerce? kind value = some value := by
  cases kind with
  | int =>
      cases value with
      | number number =>
          cases number with
          | int n => rfl
          | float x => exact absurd rfl (whole rfl x)
      | _ => cases fits
  | time =>
      cases value with
      | string s => exact if_pos fits
      | _ => cases fits
  | _ => cases value <;> first | rfl | cases fits

theorem Sql.Expr.float_of_literal? {expr : Expr} {x : Double}
    (known : expr.literal? = some (.number (.float x))) : ∃ value, expr = .float value := by
  cases expr with
  | float value => exact ⟨value, rfl⟩
  | _ => cases known

/-! ## Comparisons -/

section Comparisons

variable {scope : Scope} {field : Accessor} {operand : Expr} {value : Value} {op : CompareOp}
  {binding bound : Binding} {condition : Condition}

/-- What binding a literal operand takes. -/
theorem Condition.ofOperand_of_literal? (known : operand.literal? = some value)
    (notNull : operand ≠ .null) :
    ofOperand field op operand binding = (do
      let kind ← comparableKind field
      if fitsKind kind value then
        return (guardedBy field (.compare field op (.constant value) kind), binding)
      else throw (.compile (.literalMismatch field.name field.schema value))) := by
  cases operand with
  | null => exact absurd rfl notNull
  | integer | float | string | boolean =>
      cases known
      rfl
  | _ => cases known

/-- A literal operand of a bound comparison is a value of the kind that it is compared as. -/
theorem Condition.coerce?_of_ofOperand (known : operand.literal? = some value)
    (notNull : operand ≠ .null) (whole : field.schema.kind? = some .int → ∀ x, operand ≠ .float x)
    (found : ofOperand field op operand binding = .ok (condition, bound)) :
    ∃ kind, field.schema.kind? = some kind ∧ fitsKind kind value = true ∧
      coerce? kind value = some value := by
  rw [ofOperand_of_literal? known notNull] at found
  rcases Outcome.bind_eq_ok.1 found with ⟨kind, compared, found⟩
  rw [comparableKind_eq_ok] at compared
  split at found
  · rename_i fits
    refine ⟨kind, compared, fits, coerce?_of_fitsKind fits ?_⟩
    rintro rfl x rfl
    rcases Sql.Expr.float_of_literal? known with ⟨y, rfl⟩
    exact whole compared y rfl
  · cases found

/-- A literal operand says what a placeholder for its value says. -/
theorem Scope.testOperand_of_literal? {kind : ScalarKind} (known : operand.literal? = some value)
    (notNull : operand ≠ .null) (compared : field.schema.kind? = some kind)
    (fits : Condition.fitsKind kind value = true) (converted : coerce? kind value = some value)
    (given : Nat → Value) (record : Value) :
    testOperand given record field op operand = testGiven record value field op := by
  have made : Condition.ofOperand field op operand .empty =
      .ok (Condition.guardedBy field (.compare field op (.constant value) kind), .empty) := by
    rw [Condition.ofOperand_of_literal? known notNull, Condition.comparableKind_eq_ok.2 compared,
      Outcome.ok_bind, if_pos fits]
    rfl
  have tested : testOperand given record field op operand =
      (Condition.guardedBy field (.compare field op (.constant value) kind)).evaluate record
        .empty := by
    cases operand with
    | placeholder => cases known
    | _ =>
        rw [testOperand, made]
        · rfl
        · intro index same
          cases same
  rw [tested, testGiven, Condition.comparableKind_eq_ok.2 compared, Outcome.ok_bind, coerce,
    converted]
  refine Condition.evaluate_guardedBy _ ?_
  rw [Condition.evaluate]
  cases field.get record with
  | error error => rfl
  | ok found =>
      cases found with
      | none => rfl
      | some left =>
          simp only [Outcome.ok_bind, Condition.operandValue]
          cases value.isNull <;> rfl

theorem Condition.ofOperand_placeholder {kind : ScalarKind}
    (compared : field.schema.kind? = some kind) (index : Nat) :
    ∃ result, ofOperand field op (.placeholder index) binding = .ok result := by
  rw [ofOperand.eq_def, comparableKind_eq_ok.2 compared]
  exact ⟨_, rfl⟩

/-- Where a field is compared with an operand, on either side, a literal means what a placeholder for
its value means. -/
theorem Scope.means_of_operand {comparison : Expr → Expr}
    (plain : ∀ operand, (comparison operand).placeholders = operand.placeholders)
    (binds : ∀ operand binding, scope.field? operand = .ok none →
      Condition.ofExpr scope (comparison operand) binding =
        Condition.ofOperand field op operand binding)
    (accepting : ∀ operand given, scope.field? operand = .ok none →
      (scope.accepts given (comparison operand) ↔ acceptsOperand given field operand))
    (testing : ∀ operand given record, scope.field? operand = .ok none →
      scope.test given record (comparison operand) = testOperand given record field op operand)
    (known : operand.literal? = some value) (notNull : operand ≠ .null)
    (whole : field.schema.kind? = some .int → ∀ x, operand ≠ .float x) (index : Nat)
    (found : Condition.ofExpr scope (comparison operand) binding = .ok (condition, bound)) :
    (scope.Means (comparison operand) [] True fun record => testGiven record value field op) ∧
    scope.Means (comparison (.placeholder index)) [value] True fun record =>
      testGiven record value field op := by
  have none : scope.field? operand = .ok none := field?_of_literal? known
  have made := (binds operand binding none).symm.trans found
  obtain ⟨kind, compared, fits, converted⟩ := Condition.coerce?_of_ofOperand known notNull whole made
  constructor
  · have means := means_of_ofExpr found fun _ => value
    rw [plain, Expr.placeholders_of_literal? known] at means
    refine means.iff (iff_of_true ?_ trivial) fun record => ?_
    · rw [accepting _ _ none]
      cases operand <;> trivial
    · rw [testing _ _ _ none]
      exact testOperand_of_literal? known notNull compared fits converted _ record
  · have none := field?_placeholder scope index
    rcases Condition.ofOperand_placeholder compared index with ⟨result, made⟩
    have means := means_of_ofExpr ((binds _ binding none).trans made) fun _ => value
    rw [plain] at means
    refine means.iff (iff_of_true ?_ trivial) fun record => ?_
    · rw [accepting _ _ none]
      simp [acceptsOperand, compared, converted]
    · rw [testing _ _ _ none]
      rfl

theorem Scope.means_of_right {left right : Expr} (read : scope.field? left = .ok (some field))
    (known : right.literal? = some value) (notNull : right ≠ .null)
    (whole : field.schema.kind? = some .int → ∀ x, right ≠ .float x) (index : Nat)
    (found : Condition.ofExpr scope (.binary (.compare op) left right) binding =
      .ok (condition, bound)) :
    (scope.Means (.binary (.compare op) left right) [] True fun record =>
      testGiven record value field op) ∧
    scope.Means (.binary (.compare op) left (.placeholder index)) [value] True fun record =>
      testGiven record value field op := by
  refine means_of_operand (fun operand => ?_) (fun operand binding none => ?_)
    (fun operand given none => ?_) (fun operand given record none => ?_) known notNull whole index
    found
  · rw [Expr.placeholders, placeholders_of_field? read, List.nil_append]
  · rw [Condition.ofExpr, Condition.ofComparison, read, Outcome.ok_bind, none]
    rfl
  · simp only [accepts, read, none]
  · rw [test, testComparison, read, Outcome.ok_bind, none]
    rfl

theorem Scope.means_of_left {left right : Expr} (read : scope.field? right = .ok (some field))
    (known : left.literal? = some value) (notNull : left ≠ .null)
    (whole : field.schema.kind? = some .int → ∀ x, left ≠ .float x) (index : Nat)
    (found : Condition.ofExpr scope (.binary (.compare op) left right) binding =
      .ok (condition, bound)) :
    (scope.Means (.binary (.compare op) left right) [] True fun record =>
      testGiven record value field op.flip) ∧
    scope.Means (.binary (.compare op) (.placeholder index) right) [value] True fun record =>
      testGiven record value field op.flip := by
  refine @means_of_operand _ _ _ _ _ _ _ _ (fun operand => .binary (.compare op) operand right)
    (fun operand => ?_) (fun operand binding none => ?_) (fun operand given none => ?_)
    (fun operand given record none => ?_) known notNull whole index found
  · rw [Expr.placeholders, placeholders_of_field? read, List.append_nil]
  · rw [Condition.ofExpr, Condition.ofComparison, none, Outcome.ok_bind, read]
    rfl
  · simp only [accepts, read, none]
  · rw [test, testComparison, none, Outcome.ok_bind, read]
    rfl

end Comparisons

/-! ## Members -/

namespace Condition

variable {kind : ScalarKind} {item item' : Expr} {items items' : List Expr}
  {args args' : List Value} {field : Accessor}

/-- What is kept of an `IN` list is a placeholder, whose number may change, or a literal. -/
theorem Listed.cases_of_same (listed : Listed kind item) (same : item.unnumbered = item'.unnumbered) :
    (∃ index index', item = .placeholder index ∧ item' = .placeholder index') ∨
      item' = item ∧ item.placeholders = [] ∧ ∃ literal, item.literal? = some literal := by
  rcases listed with ⟨index, rfl⟩ | ⟨notNull, literal, plain, -⟩
  · cases item' <;> cases same
    exact .inl ⟨_, _, rfl, rfl⟩
  · refine .inr ⟨?_, Expr.placeholders_of_literal? plain, literal, plain⟩
    cases item <;> cases plain <;> cases item' <;> cases same <;> rfl

theorem listed_of_liftsEach (each : LiftsEach items args items' args')
    (listed : ∀ item ∈ items, Listed kind item) : ∀ item ∈ items', Listed kind item := by
  induction each with
  | nil => exact listed
  | kept same count rest ih =>
      rw [List.forall_mem_cons] at listed ⊢
      refine ⟨?_, ih listed.2⟩
      rcases listed.1.cases_of_same same with ⟨index, index', -, rfl⟩ | ⟨rfl, -⟩
      · exact .inl ⟨index', rfl⟩
      · exact listed.1
  | lifted known notNull index rest ih =>
      rw [List.forall_mem_cons] at listed ⊢
      exact ⟨.inl ⟨index, rfl⟩, ih listed.2⟩

theorem listed_renumberAllFrom (listed : ∀ item ∈ items, Listed kind item) (start : Nat) :
    ∀ item ∈ Sql.renumberAllFrom start items, Listed kind item := by
  induction items generalizing start with
  | nil => exact listed
  | cons item rest ih =>
      rw [List.forall_mem_cons] at listed
      rw [Sql.renumberAllFrom, List.forall_mem_cons]
      refine ⟨?_, ih listed.2 _⟩
      have same := (item.unnumbered_renumberFrom start).symm
      rcases listed.1.cases_of_same same with ⟨index, index', -, same⟩ | ⟨same, -⟩
      · exact .inl ⟨index', same⟩
      · rw [same]
        exact listed.1

/-- As many arguments as placeholders, before and after. -/
theorem length_of_liftsEach (each : LiftsEach items args items' args')
    (listed : ∀ item ∈ items, Listed kind item) :
    args.length = (Sql.placeholdersOf items).length ∧
      args'.length = (Sql.placeholdersOf items').length := by
  induction each with
  | nil => exact ⟨rfl, rfl⟩
  | kept same count rest ih =>
      rw [List.forall_mem_cons] at listed
      rcases ih listed.2 with ⟨before, after⟩
      simp only [Sql.placeholdersOf, List.length_append, count, before, after, true_and]
      rcases listed.1.cases_of_same same with ⟨index, index', rfl, rfl⟩ | ⟨rfl, -⟩ <;> rfl
  | lifted known notNull index rest ih =>
      rw [List.forall_mem_cons] at listed
      rcases ih listed.2 with ⟨before, after⟩
      simp [Sql.placeholdersOf, Expr.placeholders_of_literal? known, Expr.placeholders, before, after,
        Nat.add_comm]

theorem memberOf_of_literal? {literal : Value} (known : item.literal? = some literal)
    (given : Nat → Value) :
    Scope.memberOf given field kind item = coerce field.name kind literal := by
  cases item <;> cases known <;> rfl

theorem renumberFrom_of_literal? {literal : Value} (known : item.literal? = some literal)
    (start : Nat) : item.renumberFrom start = item := by
  cases item <;> first | rfl | cases known

/-- The members are the same before and after, each literal or argument in its place. -/
theorem members_of_liftsEach (each : LiftsEach items args items' args')
    (listed : ∀ item ∈ items, Listed kind item) {start start' : Nat} {given given' : Nat → Value}
    (placed : (List.range' start args.length).map given = args)
    (placed' : (List.range' start' args'.length).map given' = args') :
    (Sql.renumberAllFrom start items).mapM (Scope.memberOf given field kind) =
      (Sql.renumberAllFrom start' items').mapM (Scope.memberOf given' field kind) := by
  induction each generalizing start start' with
  | nil => rfl
  | @kept item item' items items' own args args' same count rest ih =>
      rw [List.forall_mem_cons] at listed
      rw [Sql.renumberAllFrom, Sql.renumberAllFrom, List.mapM_cons, List.mapM_cons]
      rcases listed.1.cases_of_same same with
        ⟨index, index', rfl, rfl⟩ | ⟨rfl, plain, literal, known⟩
      · rcases List.length_eq_one_iff.1 count with ⟨value, rfl⟩
        simp only [List.singleton_append, List.length_cons, List.range'_succ, List.map_cons,
          List.cons.injEq] at placed placed'
        rw [Expr.renumberFrom, Expr.renumberFrom, Scope.memberOf, Scope.memberOf, placed.1,
          placed'.1]
        exact bind_congr fun first => congrArg (· >>= fun others => pure (first :: others))
          (ih listed.2 placed.2 placed'.2)
      · rw [plain] at count ⊢
        cases List.length_eq_zero_iff.1 count
        rw [renumberFrom_of_literal? known, renumberFrom_of_literal? known, memberOf_of_literal? known,
          memberOf_of_literal? known]
        exact bind_congr fun first => congrArg (· >>= fun others => pure (first :: others))
          (ih listed.2 placed placed')
  | @lifted item value items items' args args' known notNull index rest ih =>
      rw [List.forall_mem_cons] at listed
      rw [Sql.renumberAllFrom, Sql.renumberAllFrom, List.mapM_cons, List.mapM_cons]
      simp only [List.length_cons, List.range'_succ, List.map_cons, List.cons.injEq] at placed'
      rw [renumberFrom_of_literal? known, memberOf_of_literal? known, Expr.renumberFrom,
        Scope.memberOf, placed'.1, Expr.placeholders_of_literal? known]
      exact bind_congr fun first => congrArg (· >>= fun others => pure (first :: others))
        (ih listed.2 placed placed'.2)

end Condition

/-! ## Agreement -/

namespace Scope

variable {scope : Scope} {expr expr' operand : Expr} {items items' : List Expr}
  {args args' : List Value} {binding bound : Binding} {condition : Condition}

/-- An `IN` list means the set of its members, which are the same before and after. -/
theorem means_of_listed {field : Accessor} {kind : ScalarKind} {negated : Bool}
    (required : scope.requireField operand = .ok field) (set : setKind field = .ok kind)
    (listed : ∀ item ∈ items, Condition.Listed kind item)
    (count : args.length = (Sql.placeholdersOf items).length) {members : QueryResult (List Value)}
    (same : (Sql.renumberAllFrom 0 items).mapM (memberOf (args.getD · .null) field kind) = members) :
    scope.Means (.inList operand items negated) args (∃ values, members = .ok values) fun record => do
      let values ← members
      match ← field.get record with
      | none => return false
      | some value => return (MemberSet.build kind values).contains value != negated := by
  subst same
  have listed := Condition.listed_renumberAllFrom listed 0
  have bound : ∃ result, Condition.ofExpr scope
      (.inList operand (Sql.renumberAllFrom 0 items) negated) .empty = .ok result :=
    Condition.ofMembership_isOk_iff.2 ⟨field, kind, required, set, listed⟩
  rcases bound with ⟨result, found⟩
  have means := means_of_ofExpr found (args.getD · .null)
  rw [Expr.placeholders, placeholders_of_requireField required, List.nil_append,
    Sql.placeholdersOf_renumberAllFrom, ← count, ← List.range_eq_range',
    Condition.map_range_getD] at means
  have known := (Condition.kind?_of_setKind set).1
  refine (means.iff ?_ fun record => ?_).congr (by simp [Sql.Expr.unnumbered])
  · rw [Outcome.exists_mapM_eq_ok]
    have accepting (given : Nat → Value) :
        scope.accepts given (.inList operand (Sql.renumberAllFrom 0 items) negated) =
          ∀ item ∈ Sql.renumberAllFrom 0 items, acceptsOperand given field item := by
      simp [accepts, required]
    rw [accepting]
    exact forall₂_congr fun item member =>
      (Condition.memberOf_iff_acceptsOperand known (listed item member) _).symm
  · rw [test, testMembership, required, Outcome.ok_bind, set]
    rfl

theorem means_of_member {negated : Bool}
    (found : Condition.ofExpr scope (.inList operand items negated) binding = .ok (condition, bound))
    (each : LiftsEach items args items' args') :
    ∃ accepts test, scope.Means (.inList operand items negated) args accepts test ∧
      scope.Means (.inList operand items' negated) args' accepts test := by
  rcases Condition.ofMembership_isOk_iff.1 ⟨_, found⟩ with ⟨field, kind, required, set, listed⟩
  rcases Condition.length_of_liftsEach each listed with ⟨before, after⟩
  have placed (args : List Value) : (List.range' 0 args.length).map (args.getD · .null) = args := by
    rw [← List.range_eq_range', Condition.map_range_getD]
  have same : (Sql.renumberAllFrom 0 items).mapM (memberOf (args.getD · .null) field kind) =
      (Sql.renumberAllFrom 0 items').mapM (memberOf (args'.getD · .null) field kind) :=
    Condition.members_of_liftsEach each listed (placed args) (placed args')
  exact ⟨_, _, means_of_listed required set listed before same,
    means_of_listed required set (Condition.listed_of_liftsEach each listed) after rfl⟩

/-- Both expressions mean the same, each with its arguments. -/
theorem means_of_lifts (lifts : scope.Lifts expr args expr' args')
    (found : Condition.ofExpr scope expr binding = .ok (condition, bound)) :
    ∃ accepts test, scope.Means expr args accepts test ∧ scope.Means expr' args' accepts test := by
  induction lifts generalizing binding condition bound with
  | kept same count =>
      rcases exists_means found count with ⟨accepts, test, means⟩
      exact ⟨accepts, test, means, means.congr same⟩
  | and one two ihOne ihTwo =>
      rcases Outcome.bind_eq_ok.1 found with ⟨⟨first, middle⟩, bindsLeft, found⟩
      rcases Outcome.bind_eq_ok.1 found with ⟨⟨second, last⟩, bindsRight, -⟩
      rcases ihOne bindsLeft with ⟨accepts, test, before, after⟩
      rcases ihTwo bindsRight with ⟨also, further, before', after'⟩
      exact ⟨_, _, before.and before', after.and after'⟩
  | or one two ihOne ihTwo =>
      rcases Outcome.bind_eq_ok.1 found with ⟨⟨first, middle⟩, bindsLeft, found⟩
      rcases Outcome.bind_eq_ok.1 found with ⟨⟨second, last⟩, bindsRight, -⟩
      rcases ihOne bindsLeft with ⟨accepts, test, before, after⟩
      rcases ihTwo bindsRight with ⟨also, further, before', after'⟩
      exact ⟨_, _, before.or before', after.or after'⟩
  | not inner ih =>
      rcases Outcome.bind_eq_ok.1 found with ⟨⟨first, middle⟩, binds, -⟩
      rcases ih binds with ⟨accepts, test, before, after⟩
      exact ⟨_, _, before.not, after.not⟩
  | right op index read known notNull whole =>
      exact ⟨_, _, means_of_right read known notNull whole index found⟩
  | left op index read known notNull whole =>
      exact ⟨_, _, means_of_left read known notNull whole index found⟩
  | member operand negated each => exact means_of_member found each

end Scope

namespace Condition

variable {scope : Scope} {expr expr' : Expr} {args args' : List Value} {bound : Binding}
  {condition : Condition}

/-- Literals and arguments can be interchanged: where some literals of a bound expression are
replaced by placeholders for their values, the expression is bound, its arguments expand just as
those of the first one do, and on every record both conditions have the same answer or fail with the
same error. The arguments of an expression that had none before always expand. -/
theorem lifted_agrees (found : ofExpr scope expr .empty = .ok (condition, bound))
    (lifts : scope.Lifts expr args expr' args') :
    ∃ condition' bound', ofExpr scope expr' .empty = .ok (condition', bound') ∧
      ((∃ arguments, bound'.expand args' = .ok arguments) ↔
        ∃ arguments, bound.expand args = .ok arguments) ∧
      (expr.placeholders = [] → ∃ arguments, bound'.expand args' = .ok arguments) ∧
      ∀ arguments arguments', bound.expand args = .ok arguments →
        bound'.expand args' = .ok arguments' →
        ∀ record, condition'.evaluate record arguments' = condition.evaluate record arguments := by
  rcases Scope.means_of_lifts lifts found with ⟨accepts, test, before, after⟩
  rcases before .empty with ⟨_, _, made, takes⟩
  cases found.symm.trans made
  rcases after .empty with ⟨condition', bound', made', takes'⟩
  have expands := takes.expand_iff
  have expands' := takes'.expand_iff
  refine ⟨condition', bound', made', expands'.trans expands.symm, ?_, ?_⟩
  · intro plain
    have none : args = [] := by
      have count := takes.count.symm.trans (states_of_ofExpr found).count
      rw [plain] at count
      exact List.eq_nil_of_length_eq_zero (Nat.add_left_cancel count)
    have expands : ∃ arguments, bound.expand args = .ok arguments :=
      (expand_iff_accepts found (by simp [plain])).2
        ⟨by simp [none, plain], accepts_of_plain found plain _⟩
    exact expands'.2 (takes.expand_iff.1 expands)
  · intro arguments arguments' expanded expanded' record
    rw [takes.evaluate_eq expanded, takes'.evaluate_eq expanded']

/-! A measurement with its unit. -/

def gauge : Scope :=
  ⟨⟨"Gauge", [("Level", .scalar .float), ("Unit", .optional (.scalar .string))]⟩, false, "Gauge"⟩

/-- `Level > 3 OR Unit IN ('m', 'km')` and `Level > ? OR Unit IN ('m', ?)`. -/
theorem lifted_agrees_gauge :
    ∃ condition' bound' arguments',
      ofExpr gauge
        (.binary .or (.binary (.compare .gt) (.column "Level") (.placeholder 0))
          (.inList (.column "Unit") [.string "m", .placeholder 1] false)) .empty =
        .ok (condition', bound') ∧
      bound'.expand [.ofInt64 3, .string "km"] = .ok arguments' ∧
      condition'.evaluate (.object [("Level", .ofInt64 2), ("Unit", .string "km")]) arguments' =
        .ok true := by
  have compared : gauge.Lifts (.binary (.compare .gt) (.column "Level") (.integer 3)) []
      (.binary (.compare .gt) (.column "Level") (.placeholder 0)) [.ofInt64 3] :=
    .right .gt 0 rfl rfl nofun nofun
  have item : LiftsEach [.string "km"] [] [.placeholder 1] [.string "km"] :=
    .lifted rfl (by simp) 1 .nil
  have listed : gauge.Lifts (.inList (.column "Unit") [.string "m", .string "km"] false) []
      (.inList (.column "Unit") [.string "m", .placeholder 1] false) [.string "km"] :=
    .member _ _ (@LiftsEach.kept _ _ _ _ [] _ _ rfl rfl item)
  obtain ⟨condition', bound', found, -, expands, same⟩ := lifted_agrees rfl (compared.or listed)
  rcases expands rfl with ⟨arguments', expanded⟩
  refine ⟨condition', bound', arguments', found, expanded, ?_⟩
  rw [same _ arguments' rfl expanded]
  rfl

end Condition

end RecordQuery
