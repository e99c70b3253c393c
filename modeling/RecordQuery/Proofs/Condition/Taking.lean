import RecordQuery.Proofs.Condition.Acceptance
import RecordQuery.Proofs.Condition.Unnumbered

/-!
# Expressions with their arguments

An expression together with the arguments that it takes has a meaning of its own: whether the
arguments can be used, and what is then said about a record. Neither depends on where in a statement
the expression is bound, so expressions are put together by putting together what they mean.
-/

namespace RecordQuery

open Sql (Expr CompareOp)

/-! ## Bound at one place, bound at all -/

namespace Condition

variable {scope : Scope} {binding : Binding} {field : Accessor} {result : Condition × Binding}

theorem exists_ofOperand {op : CompareOp} {operand : Expr}
    (found : ofOperand field op operand binding = .ok result) (other : Binding) :
    ∃ result, ofOperand field op operand other = .ok result := by
  rcases Outcome.bind_eq_ok.1 found with ⟨kind, known, found⟩
  rw [ofOperand.eq_def, known, Outcome.ok_bind]
  cases operand with
  | null => cases op <;> exact ⟨_, rfl⟩
  | placeholder index => exact ⟨_, rfl⟩
  | integer | float | string | boolean =>
      simp only [Expr.literal?] at found ⊢
      split at found
      · rename_i fits
        rw [if_pos fits]
        exact ⟨_, rfl⟩
      · cases found
  | _ => cases found

theorem exists_ofComparison {left right : Expr} {op : CompareOp}
    (found : ofComparison scope left op right binding = .ok result) (other : Binding) :
    ∃ result, ofComparison scope left op right other = .ok result := by
  rcases Outcome.bind_eq_ok.1 found with ⟨leftField, readLeft, found⟩
  rcases Outcome.bind_eq_ok.1 found with ⟨rightField, readRight, found⟩
  rw [ofComparison, readLeft, Outcome.ok_bind, readRight, Outcome.ok_bind]
  cases leftField with
  | some first =>
      cases rightField with
      | some second =>
          rcases Outcome.bind_eq_ok.1 found with ⟨compared, made, -⟩
          exact ⟨(compared, other), by simp only [made]; rfl⟩
      | none => exact exists_ofOperand found other
  | none =>
      cases rightField with
      | some second => exact exists_ofOperand found other
      | none =>
          rcases Outcome.bind_eq_ok.1 found with ⟨compared, made, -⟩
          exact ⟨(compared, other), by simp only [made]; rfl⟩

/-- An expression that is bound behind some others is bound behind any. -/
theorem exists_ofExpr {expr : Expr} (found : ofExpr scope expr binding = .ok result)
    (other : Binding) : ∃ result, ofExpr scope expr other = .ok result := by
  fun_induction ofExpr scope expr binding generalizing result other with
  | case1 left right binding ihLeft ihRight | case2 left right binding ihLeft ihRight =>
      rcases Outcome.bind_eq_ok.1 found with ⟨⟨first, middle⟩, bindsLeft, found⟩
      rcases Outcome.bind_eq_ok.1 found with ⟨⟨second, last⟩, bindsRight, -⟩
      rcases ihLeft bindsLeft other with ⟨one, bindsLeft⟩
      rcases ihRight middle bindsRight one.2 with ⟨two, bindsRight⟩
      rw [ofExpr, bindsLeft, Outcome.ok_bind]
      exact ⟨_, Outcome.bind_eq_ok.2 ⟨two, bindsRight, rfl⟩⟩
  | case3 op left right binding => exact exists_ofComparison found other
  | case4 operand binding ih =>
      rcases Outcome.bind_eq_ok.1 found with ⟨⟨inner, last⟩, binds, -⟩
      rcases ih binds other with ⟨one, binds⟩
      rw [ofExpr]
      exact ⟨_, Outcome.bind_eq_ok.2 ⟨one, binds, rfl⟩⟩
  | case5 operand binding | case6 operand binding | case9 | case10 =>
      rcases Outcome.bind_eq_ok.1 found with ⟨test, made, -⟩
      rw [ofExpr]
      exact ⟨_, Outcome.bind_eq_ok.2 ⟨test, made, rfl⟩⟩
  | case7 operand items negated binding =>
      rw [ofExpr]
      exact ofMembership_isOk_iff.2 (ofMembership_isOk_iff.1 ⟨result, found⟩)
  | case8 value binding => exact ⟨_, rfl⟩
  | case11 => cases found

end Condition

/-! ## What an expression means -/

/-- A part of a statement takes its arguments from those of a run. They can be used if they are
accepted, and what the condition then says of a record is told by a test. -/
structure Condition.Takes (binding bound : Binding) (condition : Condition) (args : List Value)
    (accepts : Prop) (test : Value → QueryResult Bool) : Prop where
  start : binding.StartOf bound
  ordered : binding.Ordered → bound.Ordered
  count : bound.placeholders = binding.placeholders + args.length
  fillable : ∀ {given : List Value}, binding.Ordered → args <+: given.drop binding.placeholders →
    (bound.Fillable given ↔ binding.Fillable given ∧ accepts)
  same : ∀ {final : Binding} {given : List Value} {arguments : Arguments}, bound.StartOf final →
    final.Ordered → final.expand given = .ok arguments →
    args <+: given.drop binding.placeholders →
    ∀ record, condition.evaluate record arguments = test record

namespace Condition.Takes

variable {bound : Binding} {condition : Condition} {args : List Value} {accepts : Prop}
  {test : Value → QueryResult Bool} {arguments : Arguments}

/-- The arguments of a whole condition expand exactly when they are accepted. -/
theorem expand_iff (takes : Takes .empty bound condition args accepts test) :
    (∃ arguments, bound.expand args = .ok arguments) ↔ accepts := by
  have count : args.length = bound.placeholders := (takes.count.trans (Nat.zero_add _)).symm
  rw [Binding.expand_iff_fillable, takes.fillable Binding.ordered_empty List.prefix_rfl]
  simp [count, Binding.fillable_empty]

theorem evaluate_eq (takes : Takes .empty bound condition args accepts test)
    (expanded : bound.expand args = .ok arguments) (record : Value) :
    condition.evaluate record arguments = test record :=
  takes.same (.refl bound) (takes.ordered Binding.ordered_empty) expanded List.prefix_rfl record

end Condition.Takes

/-- What an expression with its arguments means wherever it is bound. -/
def Scope.Means (scope : Scope) (expr : Expr) (args : List Value) (accepts : Prop)
    (test : Value → QueryResult Bool) : Prop :=
  ∀ binding, ∃ condition bound, Condition.ofExpr scope expr binding = .ok (condition, bound) ∧
    Condition.Takes binding bound condition args accepts test

namespace Scope

variable {scope : Scope} {expr other left right : Expr} {args first second : List Value}
  {accepts also : Prop} {test further : Value → QueryResult Bool}

/-- A bound expression means what it accepts and tests, whatever numbers its placeholders have been
given their values by. -/
theorem means_of_ofExpr {binding : Binding} {result : Condition × Binding}
    (found : Condition.ofExpr scope expr binding = .ok result) (given : Nat → Value) :
    scope.Means expr (expr.placeholders.map given) (scope.accepts given expr)
      fun record => scope.test given record expr := by
  intro binding
  rcases Condition.exists_ofExpr found binding with ⟨⟨condition, bound⟩, found⟩
  have states := Condition.states_of_ofExpr found
  have adds := (Condition.addsFor_of_ofExpr found).adds
  refine ⟨condition, bound, found, states.start, adds.ordered, ?_, ?_, ?_⟩
  · rw [states.count, List.length_map]
  · exact fun ordered placed => Condition.fillable_iff_accepts found ordered placed
  · exact fun start ordered expanded placed => states.same start ordered expanded given placed

/-- The numbers of the placeholders do not matter. -/
theorem Means.congr (means : scope.Means expr args accepts test)
    (same : expr.unnumbered = other.unnumbered) : scope.Means other args accepts test := by
  intro binding
  rcases means binding with ⟨condition, bound, found, takes⟩
  refine ⟨condition, bound, ?_, takes⟩
  rw [← Outcome.toOption_eq_some, ← Condition.toOption_ofExpr_congr same, Outcome.toOption_eq_some]
  exact found

/-- Every expression that is bound means something with as many arguments as it has placeholders. -/
theorem exists_means {binding : Binding} {result : Condition × Binding}
    (found : Condition.ofExpr scope expr binding = .ok result)
    (count : args.length = expr.placeholders.length) :
    ∃ accepts test, scope.Means expr args accepts test := by
  have same : expr.unnumbered = (expr.renumberFrom 0).unnumbered :=
    (expr.unnumbered_renumberFrom 0).symm
  have renumbered : Condition.ofExpr scope (expr.renumberFrom 0) binding = .ok result := by
    rw [← Outcome.toOption_eq_some, ← Condition.toOption_ofExpr_congr same,
      Outcome.toOption_eq_some]
    exact found
  have means := means_of_ofExpr renumbered (args.getD · .null)
  rw [Sql.Expr.placeholders_renumberFrom, ← count, ← List.range_eq_range',
    Condition.map_range_getD] at means
  exact ⟨_, _, means.congr same.symm⟩

theorem Means.iff (means : scope.Means expr args accepts test) (same : accepts ↔ also)
    (tests : ∀ record, test record = further record) : scope.Means expr args also further := by
  obtain rfl : test = further := funext tests
  obtain rfl : accepts = also := propext same
  exact means

theorem Means.not (means : scope.Means expr args accepts test) :
    scope.Means (.not expr) args accepts fun record => do return !(← test record) := by
  intro binding
  rcases means binding with ⟨condition, bound, found, takes⟩
  refine ⟨.not condition, bound, ?_, takes.start, takes.ordered, takes.count, takes.fillable, ?_⟩
  · rw [Condition.ofExpr, found]
    rfl
  · intro final given arguments start ordered expanded placed record
    rw [Condition.evaluate, takes.same start ordered expanded placed]

/-- Two expressions in turn take the arguments of the first and then those of the second. -/
theorem Means.join {op : Sql.BinaryOp} (joined : Condition → Condition → Condition)
    (combine : QueryResult Bool → QueryResult Bool → QueryResult Bool)
    (binds : ∀ binding, Condition.ofExpr scope (.binary op left right) binding = (do
      let (one, binding) ← Condition.ofExpr scope left binding
      let (two, binding) ← Condition.ofExpr scope right binding
      return (joined one two, binding)))
    (evaluates : ∀ one two record arguments, (joined one two).evaluate record arguments =
      combine (one.evaluate record arguments) (two.evaluate record arguments))
    (means : scope.Means left first accepts test) (behind : scope.Means right second also further) :
    scope.Means (.binary op left right) (first ++ second) (accepts ∧ also) fun record =>
      combine (test record) (further record) := by
  intro binding
  rcases means binding with ⟨one, middle, found, takes⟩
  rcases behind middle with ⟨two, bound, found', takes'⟩
  refine ⟨joined one two, bound, ?_, takes.start.trans takes'.start,
    takes'.ordered ∘ takes.ordered, ?_, ?_, ?_⟩
  · rw [binds, found, Outcome.ok_bind]
    simp only [found']
    rfl
  · rw [takes'.count, takes.count, List.length_append, Nat.add_assoc]
  · intro given ordered placed
    rcases given_append placed with ⟨here, later⟩
    rw [← takes.count] at later
    rw [takes'.fillable (takes.ordered ordered) later, takes.fillable ordered here, and_assoc]
  · intro final given arguments start ordered expanded placed record
    rcases given_append placed with ⟨here, later⟩
    rw [← takes.count] at later
    rw [evaluates, takes.same (takes'.start.trans start) ordered expanded here,
      takes'.same start ordered expanded later]

theorem Means.and (means : scope.Means left first accepts test)
    (behind : scope.Means right second also further) :
    scope.Means (.binary .and left right) (first ++ second) (accepts ∧ also) (fun record => do
      if ← test record then further record else return false) :=
  Means.join .and (fun one two => do if ← one then two else return false)
    (fun _ => by rw [Condition.ofExpr]) (fun _ _ _ _ => by rw [Condition.evaluate]) means behind

theorem Means.or (means : scope.Means left first accepts test)
    (behind : scope.Means right second also further) :
    scope.Means (.binary .or left right) (first ++ second) (accepts ∧ also) (fun record => do
      if ← test record then return true else further record) :=
  Means.join .or (fun one two => do if ← one then return true else two)
    (fun _ => by rw [Condition.ofExpr]) (fun _ _ _ _ => by rw [Condition.evaluate]) means behind

end Scope

end RecordQuery
