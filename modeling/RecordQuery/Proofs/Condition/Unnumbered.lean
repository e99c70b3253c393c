import RecordQuery.Proofs.Condition.Meaning

/-!
# The numbers of placeholders do not matter

A reader of SQL numbers the placeholders of each text from zero on. Binding an expression takes its
arguments in the order of the text and never looks at these numbers, so expressions that differ in
nothing else are bound to the same condition, and every expression may be taken as one whose
placeholders are numbered in the order of the text.
-/

namespace RecordQuery

open Sql (Expr CompareOp)

namespace Sql

mutual
/-- The expression with one number for all its placeholders. -/
def Expr.unnumbered : Expr → Expr
  | .placeholder _ => .placeholder 0
  | .binary op left right => .binary op left.unnumbered right.unnumbered
  | .not operand => .not operand.unnumbered
  | .isNull operand => .isNull operand.unnumbered
  | .isNotNull operand => .isNotNull operand.unnumbered
  | .inList operand items negated => .inList operand.unnumbered (unnumberedAll items) negated
  | .call name args => .call name (unnumberedAll args)
  | other => other

/-- Expressions with one number for all their placeholders. -/
def unnumberedAll : List Expr → List Expr
  | [] => []
  | expr :: rest => expr.unnumbered :: unnumberedAll rest
end

mutual
/-- The expression with its placeholders numbered from a start on, in the order of the text. -/
def Expr.renumberFrom (start : Nat) : Expr → Expr
  | .placeholder _ => .placeholder start
  | .binary op left right =>
      .binary op (left.renumberFrom start) (right.renumberFrom (start + left.placeholders.length))
  | .not operand => .not (operand.renumberFrom start)
  | .isNull operand => .isNull (operand.renumberFrom start)
  | .isNotNull operand => .isNotNull (operand.renumberFrom start)
  | .inList operand items negated =>
      .inList (operand.renumberFrom start)
        (renumberAllFrom (start + operand.placeholders.length) items) negated
  | .call name args => .call name (renumberAllFrom start args)
  | other => other

/-- Expressions whose placeholders are numbered one expression after the other. -/
def renumberAllFrom (start : Nat) : List Expr → List Expr
  | [] => []
  | expr :: rest =>
      expr.renumberFrom start :: renumberAllFrom (start + expr.placeholders.length) rest
end

mutual
@[simp] theorem Expr.unnumbered_renumberFrom (start : Nat) (expr : Expr) :
    (expr.renumberFrom start).unnumbered = expr.unnumbered := by
  cases expr with
  | binary op left right =>
      simp [Expr.renumberFrom, Expr.unnumbered, left.unnumbered_renumberFrom,
        right.unnumbered_renumberFrom]
  | not operand | isNull operand | isNotNull operand =>
      simp [Expr.renumberFrom, Expr.unnumbered, operand.unnumbered_renumberFrom]
  | inList operand items negated =>
      simp [Expr.renumberFrom, Expr.unnumbered, operand.unnumbered_renumberFrom,
        unnumberedAll_renumberAllFrom]
  | call name args => simp [Expr.renumberFrom, Expr.unnumbered, unnumberedAll_renumberAllFrom]
  | _ => rfl

@[simp] theorem unnumberedAll_renumberAllFrom (start : Nat) (exprs : List Expr) :
    unnumberedAll (renumberAllFrom start exprs) = unnumberedAll exprs := by
  cases exprs with
  | nil => rfl
  | cons expr rest =>
      simp [renumberAllFrom, unnumberedAll, expr.unnumbered_renumberFrom,
        unnumberedAll_renumberAllFrom]
end

mutual
theorem Expr.placeholders_renumberFrom (start : Nat) (expr : Expr) :
    (expr.renumberFrom start).placeholders = List.range' start expr.placeholders.length := by
  cases expr with
  | binary op left right =>
      rw [Expr.renumberFrom, Expr.placeholders, left.placeholders_renumberFrom,
        right.placeholders_renumberFrom, Expr.placeholders, List.length_append, List.range'_append_1]
  | not operand | isNull operand | isNotNull operand => exact operand.placeholders_renumberFrom start
  | inList operand items negated =>
      rw [Expr.renumberFrom, Expr.placeholders, operand.placeholders_renumberFrom,
        placeholdersOf_renumberAllFrom, Expr.placeholders, List.length_append, List.range'_append_1]
  | call name args => exact placeholdersOf_renumberAllFrom start args
  | _ => rfl

theorem placeholdersOf_renumberAllFrom (start : Nat) (exprs : List Expr) :
    placeholdersOf (renumberAllFrom start exprs) =
      List.range' start (placeholdersOf exprs).length := by
  cases exprs with
  | nil => rfl
  | cons expr rest =>
      rw [renumberAllFrom, placeholdersOf, expr.placeholders_renumberFrom,
        placeholdersOf_renumberAllFrom, placeholdersOf, List.length_append,
        List.range'_append_1]
end

@[simp] theorem Expr.literal?_unnumbered (expr : Expr) :
    expr.unnumbered.literal? = expr.literal? := by
  cases expr <;> rfl

end Sql

namespace Scope

variable {scope : Scope}

@[simp] theorem field?_unnumbered (expr : Expr) :
    scope.field? expr.unnumbered = scope.field? expr := by
  cases expr <;> rfl

theorem requireField_unnumbered (expr : Expr) :
    (scope.requireField expr.unnumbered).toOption = (scope.requireField expr).toOption := by
  rw [requireField, requireField, field?_unnumbered]
  cases scope.field? expr with
  | error error => rfl
  | ok found => cases found <;> rfl

end Scope

namespace Condition

variable {scope : Scope}

theorem ofNullTest_unnumbered (negated : Bool) (expr : Expr) :
    (ofNullTest scope negated expr.unnumbered).toOption =
      (ofNullTest scope negated expr).toOption := by
  cases expr <;> rfl

theorem ofOperand_unnumbered (field : Accessor) (op : CompareOp) (operand : Expr)
    (binding : Binding) :
    (ofOperand field op operand.unnumbered binding).toOption =
      (ofOperand field op operand binding).toOption := by
  rw [ofOperand.eq_def, ofOperand.eq_def]
  refine Outcome.toOption_bind_congr rfl fun kind => ?_
  cases operand <;> rfl

theorem ofLiterals_unnumbered (left : Expr) (op : CompareOp) (right : Expr) :
    (ofLiterals left.unnumbered op right.unnumbered).toOption =
      (ofLiterals left op right).toOption := by
  simp only [ofLiterals, Sql.Expr.literal?_unnumbered]
  split <;> rfl

theorem ofComparison_unnumbered (left : Expr) (op : CompareOp) (right : Expr)
    (binding : Binding) :
    (ofComparison scope left.unnumbered op right.unnumbered binding).toOption =
      (ofComparison scope left op right binding).toOption := by
  simp only [ofComparison, Scope.field?_unnumbered]
  refine Outcome.toOption_bind_congr rfl fun leftField => ?_
  refine Outcome.toOption_bind_congr rfl fun rightField => ?_
  cases leftField with
  | some first =>
      cases rightField with
      | some second => rfl
      | none => exact ofOperand_unnumbered first op right binding
  | none =>
      cases rightField with
      | some second => exact ofOperand_unnumbered second op.flip left binding
      | none => exact Outcome.toOption_bind_congr (ofLiterals_unnumbered left op right) fun _ => rfl

theorem listItem_unnumbered (field : Accessor) (item : Expr) :
    (listItem field item.unnumbered).toOption = (listItem field item).toOption := by
  cases item <;> rfl

theorem mapM_listItem_unnumbered (field : Accessor) (items : List Expr) :
    ((Sql.unnumberedAll items).mapM (listItem field)).toOption =
      (items.mapM (listItem field)).toOption := by
  induction items with
  | nil => rfl
  | cons item rest ih =>
      rw [Sql.unnumberedAll, List.mapM_cons, List.mapM_cons]
      refine Outcome.toOption_bind_congr (listItem_unnumbered field item) fun first => ?_
      exact Outcome.toOption_bind_congr ih fun _ => rfl

theorem ofMembership_unnumbered (operand : Expr) (items : List Expr) (negated : Bool)
    (binding : Binding) :
    (ofMembership scope operand.unnumbered (Sql.unnumberedAll items) negated binding).toOption =
      (ofMembership scope operand items negated binding).toOption := by
  rw [ofMembership, ofMembership]
  refine Outcome.toOption_bind_congr (Scope.requireField_unnumbered operand) fun field => ?_
  have listed := mapM_listItem_unnumbered field items
  dsimp only
  split
  case h_3 => rfl
  all_goals
    refine Outcome.toOption_bind_congr rfl fun kind => ?_
    exact Outcome.toOption_bind_congr listed fun _ => rfl

/-- An expression is bound to the same condition whatever the numbers of its placeholders. -/
theorem ofExpr_unnumbered (expr : Expr) (binding : Binding) :
    (ofExpr scope expr.unnumbered binding).toOption = (ofExpr scope expr binding).toOption := by
  fun_induction ofExpr scope expr binding with
  | case1 left right binding ihLeft ihRight | case2 left right binding ihLeft ihRight =>
      refine Outcome.toOption_bind_congr ihLeft fun first => ?_
      exact Outcome.toOption_bind_congr (ihRight first.2) fun _ => rfl
  | case3 op left right binding => exact ofComparison_unnumbered left op right binding
  | case4 operand binding ih => exact Outcome.toOption_bind_congr ih fun _ => rfl
  | case5 operand binding | case6 operand binding =>
      exact Outcome.toOption_bind_congr (ofNullTest_unnumbered _ operand) fun _ => rfl
  | case7 operand items negated binding =>
      exact ofMembership_unnumbered operand items negated binding
  | case8 | case9 | case10 => rfl
  | case11 expr binding =>
      cases expr with
      | binary op left right => cases op <;> first | rfl | (exfalso; simp_all)
      | _ => first | rfl | (exfalso; simp_all)

/-- Expressions that differ in the numbers of their placeholders only are bound alike. -/
theorem toOption_ofExpr_congr {first second : Expr} (same : first.unnumbered = second.unnumbered)
    (binding : Binding) :
    (ofExpr scope first binding).toOption = (ofExpr scope second binding).toOption := by
  rw [← ofExpr_unnumbered first, same, ofExpr_unnumbered]

end Condition

end RecordQuery
