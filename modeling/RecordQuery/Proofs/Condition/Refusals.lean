import RecordQuery.Proofs.Condition.Typing

/-!
# Refusals of expressions

Binding an expression to a schema fails for a name that is not found and for operands that do not
fit, and for nothing else. In particular, it does not count arguments: that is done in one place,
where a binding is expanded.
-/

namespace RecordQuery

open Outcome
open Sql (Expr CompareOp)

/-- The error says that there are too many or too few arguments. -/
def QueryError.OfCount : QueryError → Prop
  | .compile (.argumentCount _ _) => True
  | _ => False

/-- The error is none that binding to a schema gives. -/
def QueryError.Foreign : QueryError → Prop
  | .resolution _ => False
  | .compile (.argumentCount _ _) => True
  | .compile _ => False
  | .parse _ | .execution _ _ => True

theorem QueryError.OfCount.foreign {error : QueryError} (count : error.OfCount) :
    error.Foreign := by
  cases error with
  | compile fault => cases fault <;> first | exact trivial | exact absurd count id
  | _ => exact absurd count id

variable {scope : Scope}

namespace Scope

theorem spares_resolve (name : String) : Spares QueryError.Foreign (scope.resolve name) := by
  rw [resolve]
  split
  · exact spares_ok _
  · exact spares_error id

theorem spares_field? (expr : Expr) : Spares QueryError.Foreign (scope.field? expr) := by
  rw [field?.eq_def]
  split
  · exact spares_map (spares_resolve _)
  · split
    · exact spares_map (spares_resolve _)
    · exact spares_error id
  · exact spares_ok _

theorem spares_requireField (expr : Expr) :
    Spares QueryError.Foreign (scope.requireField expr) := by
  refine spares_bind (spares_field? expr) fun found _ => ?_
  cases found with
  | none => exact spares_error id
  | some field => exact spares_ok _

end Scope

namespace Condition

theorem spares_comparableKind (field : Accessor) :
    Spares QueryError.Foreign (comparableKind field) := by
  rw [comparableKind]
  split
  · exact spares_ok _
  · exact spares_error id

theorem spares_ofField (expr : Expr) : Spares QueryError.Foreign (ofField scope expr) := by
  refine spares_bind (Scope.spares_requireField expr) fun field _ => ?_
  split
  · exact spares_ok _
  · exact spares_error id

theorem spares_ofNullTest (negated : Bool) (expr : Expr) :
    Spares QueryError.Foreign (ofNullTest scope negated expr) := by
  rw [ofNullTest.eq_def]
  split
  · exact spares_ok _
  · exact spares_bind (Scope.spares_requireField _) fun field _ => spares_ok _

theorem spares_ofFields (left : Accessor) (op : CompareOp) (right : Accessor) :
    Spares QueryError.Foreign (ofFields left op right) := by
  refine spares_bind (spares_comparableKind left) fun leftKind _ => ?_
  refine spares_bind (spares_comparableKind right) fun rightKind _ => ?_
  split
  · exact spares_ok _
  · split
    · exact spares_ok _
    · exact spares_error id

theorem spares_ofOperand (field : Accessor) (op : CompareOp) (operand : Expr) (binding : Binding) :
    Spares QueryError.Foreign (ofOperand field op operand binding) := by
  refine spares_bind (spares_comparableKind field) fun kind _ => ?_
  split
  · split <;> exact spares_ok _
  · exact spares_ok _
  · split
    · exact spares_error id
    · split
      · exact spares_ok _
      · exact spares_error id

theorem spares_ofLiterals (left : Expr) (op : CompareOp) (right : Expr) :
    Spares QueryError.Foreign (ofLiterals left op right) := by
  rw [ofLiterals]
  split
  · split
    · exact spares_ok _
    · dsimp only
      split
      · exact spares_ok _
      · exact spares_error id
  · exact spares_error id

theorem spares_ofComparison (left : Expr) (op : CompareOp) (right : Expr) (binding : Binding) :
    Spares QueryError.Foreign (ofComparison scope left op right binding) := by
  refine spares_bind (Scope.spares_field? left) fun leftField _ => ?_
  refine spares_bind (Scope.spares_field? right) fun rightField _ => ?_
  cases leftField with
  | some first =>
      cases rightField with
      | some second => exact spares_map (spares_ofFields first op second)
      | none => exact spares_ofOperand first op right binding
  | none =>
      cases rightField with
      | some second => exact spares_ofOperand second op.flip left binding
      | none => exact spares_map (spares_ofLiterals left op right)

theorem spares_listItem (field : Accessor) (item : Expr) :
    Spares QueryError.Foreign (listItem field item) := by
  rw [listItem.eq_def]
  split
  · exact spares_ok _
  · exact spares_error id
  · split
    · exact spares_ok _
    · exact spares_error id

end Condition

theorem Binding.spares_pushItems (binding : Binding) (name : String) (kind : ScalarKind)
    (items : List (Option Value)) :
    Spares QueryError.Foreign (binding.pushItems name kind items).1 := by
  induction items generalizing binding with
  | nil => exact spares_ok _
  | cons item rest ih =>
      cases item with
      | none => exact ih _
      | some literal =>
          rw [pushItems, coerce]
          cases coerce? kind literal with
          | none => exact spares_error id
          | some value => exact ih _

namespace Condition

theorem spares_ofMembership (operand : Expr) (items : List Expr) (negated : Bool)
    (binding : Binding) :
    Spares QueryError.Foreign (ofMembership scope operand items negated binding) := by
  refine spares_bind (Scope.spares_requireField operand) fun field _ => ?_
  dsimp only
  split
  case h_3 => exact spares_error id
  all_goals
    refine spares_bind (spares_ok _) fun kind _ => ?_
    refine spares_bind (spares_mapM fun item _ => spares_listItem field item) fun values _ => ?_
    have spares := binding.spares_pushItems field.name kind values
    rw [Binding.addMembership]
    generalize binding.pushItems field.name kind values = pushed at spares ⊢
    rcases pushed with ⟨_ | _, filled⟩
    · exact spares_error (spares _ rfl)
    · exact spares_ok _

/-- Binding an expression fails for the names and the kinds in it only. -/
theorem spares_foreign (expr : Expr) (binding : Binding) :
    Spares QueryError.Foreign (ofExpr scope expr binding) := by
  fun_induction ofExpr scope expr binding with
  | case1 left right binding ihLeft ihRight | case2 left right binding ihLeft ihRight =>
      refine spares_bind ihLeft fun first _ => ?_
      exact spares_bind (ihRight first.2) fun second _ => spares_ok _
  | case3 op left right binding => exact spares_ofComparison left op right binding
  | case4 operand binding ih => exact spares_bind ih fun inner _ => spares_ok _
  | case5 operand binding | case6 operand binding =>
      exact spares_bind (spares_ofNullTest _ operand) fun test _ => spares_ok _
  | case7 operand items negated binding => exact spares_ofMembership operand items negated binding
  | case8 value binding => exact spares_ok _
  | case9 name binding | case10 table column binding =>
      exact spares_bind (spares_ofField _) fun test _ => spares_ok _
  | case11 => exact spares_error id

/-- Binding an expression never fails for the number of arguments. -/
theorem spares_ofExpr (expr : Expr) (binding : Binding) :
    Spares QueryError.OfCount (ofExpr scope expr binding) :=
  (spares_foreign expr binding).mono fun _ => QueryError.OfCount.foreign

end Condition

/-- With one argument for each placeholder, expanding a binding does not fail for their number. -/
theorem Binding.spares_expand {binding : Binding} {args : List Value}
    (count : args.length = binding.placeholders) :
    Spares QueryError.OfCount (binding.expand args) := by
  intro error failed
  rcases expand_eq_error count failed with ⟨group, -, slot, -, index, value, -, -, -, rfl⟩
  exact id

end RecordQuery
