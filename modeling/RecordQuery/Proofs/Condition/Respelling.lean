import RecordQuery.Proofs.Condition.Typing
import RecordQuery.Proofs.Kinds
import RecordQuery.Proofs.Schema.Respelling

/-!
# Conditions in several spellings

Where no two fields of a record type have loosely equal names, a condition may spell them in any
way: it is bound to the same fields, or refused for the same kind of reason. A bound condition has
the same answer on records whose fields are the same as far as comparisons look at them.
-/

namespace RecordQuery

namespace Sql.Expr

/-- Expressions that differ in nothing but the spelling of the fields that they refer to. The name
of a table in front of a field is no part of the field. -/
inductive Respelled : Expr → Expr → Prop where
  | same (expr : Expr) : Respelled expr expr
  | column {name other : String} (loosely : looseName name = looseName other) :
      Respelled (.column name) (.column other)
  | qualified (table : String) {name other : String} (loosely : looseName name = looseName other) :
      Respelled (.qualified table name) (.qualified table other)
  | binary (op : BinaryOp) {left right first second : Expr} (before : Respelled left first)
      (behind : Respelled right second) :
      Respelled (.binary op left right) (.binary op first second)
  | not {operand other : Expr} (inside : Respelled operand other) :
      Respelled (.not operand) (.not other)
  | isNull {operand other : Expr} (inside : Respelled operand other) :
      Respelled (.isNull operand) (.isNull other)
  | isNotNull {operand other : Expr} (inside : Respelled operand other) :
      Respelled (.isNotNull operand) (.isNotNull other)
  | inList (negated : Bool) {operand other : Expr} {items others : List Expr}
      (inside : Respelled operand other) (each : List.Forall₂ Respelled items others) :
      Respelled (.inList operand items negated) (.inList other others negated)
  | call (name : String) {args others : List Expr} (each : List.Forall₂ Respelled args others) :
      Respelled (.call name args) (.call name others)

theorem Respelled.literal?_eq {expr other : Expr} (respelled : expr.Respelled other) :
    expr.literal? = other.literal? := by
  cases respelled <;> rfl

end Sql.Expr

open Outcome (Agree)
open Sql (Expr CompareOp)

/-! ## Binding -/

namespace Scope

variable {scope : Scope} {expr other : Expr}

/-- Names are matched loosely, and no two fields match one name. -/
structure Tolerant (scope : Scope) : Prop where
  loose : scope.loose = true
  distinct : scope.type.LooselyDistinct

namespace Tolerant

theorem resolve (tolerant : scope.Tolerant) {name other : String}
    (loosely : looseName name = looseName other) :
    Agree QueryError.kind Eq (scope.resolve name) (scope.resolve other) := by
  rw [Scope.resolve, Scope.resolve, tolerant.loose, if_pos rfl, if_pos rfl,
    tolerant.distinct.looseField?_congr loosely]
  cases scope.type.looseField? other with
  | none => exact .error rfl
  | some field => exact .ok rfl

theorem field? (tolerant : scope.Tolerant) (respelled : expr.Respelled other) :
    Agree QueryError.kind Eq (scope.field? expr) (scope.field? other) := by
  cases respelled with
  | same => exact .refl _
  | column loosely => exact (tolerant.resolve loosely).map (congrArg some)
  | qualified table loosely =>
      rw [Scope.field?, Scope.field?]
      split
      · exact (tolerant.resolve loosely).map (congrArg some)
      · exact .error rfl
  | _ => exact .ok rfl

theorem requireField (tolerant : scope.Tolerant) (respelled : expr.Respelled other) :
    Agree QueryError.kind Eq (scope.requireField expr) (scope.requireField other) := by
  refine (tolerant.field? respelled).bind ?_
  rintro field _ rfl
  cases field with
  | none => exact .error rfl
  | some field => exact .ok rfl

end Tolerant

end Scope

namespace Condition

variable {scope : Scope} {expr other left right first second : Expr}

theorem ofField_agree (tolerant : scope.Tolerant) (respelled : expr.Respelled other) :
    Agree QueryError.kind Eq (ofField scope expr) (ofField scope other) := by
  refine (tolerant.requireField respelled).bind ?_
  rintro field _ rfl
  exact .refl _

theorem ofNullTest_agree (tolerant : scope.Tolerant) (respelled : expr.Respelled other)
    (negated : Bool) :
    Agree QueryError.kind Eq (ofNullTest scope negated expr) (ofNullTest scope negated other) := by
  have found := (tolerant.requireField respelled).map
    fun {field given} (same : field = given) => congrArg (Condition.isNull · negated) same
  cases respelled with
  | same => exact .refl _
  | _ => exact found

theorem ofOperand_agree (respelled : expr.Respelled other) (field : Accessor) (op : CompareOp)
    (binding : Binding) :
    Agree QueryError.kind Eq (ofOperand field op expr binding)
      (ofOperand field op other binding) := by
  cases respelled with
  | same => exact .refl _
  | _ =>
      refine (Agree.refl (comparableKind field)).bind ?_
      rintro kind _ rfl
      exact .error rfl

theorem ofLiterals_agree (before : left.Respelled first) (behind : right.Respelled second)
    (op : CompareOp) :
    Agree QueryError.kind Eq (ofLiterals left op right) (ofLiterals first op second) := by
  rw [ofLiterals, ofLiterals, before.literal?_eq, behind.literal?_eq]
  split
  · exact .refl _
  · exact .error rfl

theorem ofComparison_agree (tolerant : scope.Tolerant) (before : left.Respelled first)
    (behind : right.Respelled second) (op : CompareOp) (binding : Binding) :
    Agree QueryError.kind Eq (ofComparison scope left op right binding)
      (ofComparison scope first op second binding) := by
  refine (tolerant.field? before).bind ?_
  rintro own _ rfl
  refine (tolerant.field? behind).bind ?_
  rintro foreign _ rfl
  cases own with
  | none =>
      cases foreign with
      | none =>
          exact (ofLiterals_agree before behind op).map
            fun same => congrArg (·, binding) same
      | some field => exact ofOperand_agree before field op.flip binding
  | some field =>
      cases foreign with
      | none => exact ofOperand_agree behind field op binding
      | some field => exact .refl _

theorem listItem_agree (respelled : expr.Respelled other) (field : Accessor) :
    Agree QueryError.kind Eq (listItem field expr) (listItem field other) := by
  cases respelled with
  | same => exact .refl _
  | _ => exact .error rfl

theorem ofMembership_agree (tolerant : scope.Tolerant) (respelled : expr.Respelled other)
    {items others : List Expr} (each : List.Forall₂ Expr.Respelled items others) (negated : Bool)
    (binding : Binding) :
    Agree QueryError.kind Eq (ofMembership scope expr items negated binding)
      (ofMembership scope other others negated binding) := by
  refine (tolerant.requireField respelled).bind ?_
  rintro field _ rfl
  have listed (next : List (Option Value) → QueryResult (Condition × Binding)) :
      Agree QueryError.kind Eq (items.mapM (listItem field) >>= next)
        (others.mapM (listItem field) >>= next) := by
    refine (Agree.mapM each fun item => listItem_agree item field).bind fun {made given} same => ?_
    rw [List.forall₂_eq_eq_eq] at same
    cases same
    exact .refl _
  cases field.schema.kind? with
  | none => exact .error rfl
  | some kind =>
      cases kind with
      | int | string => exact listed _
      | _ => exact .error rfl

/-- The spelling of fields does not count for the condition that an expression becomes. -/
theorem ofExpr_agree (tolerant : scope.Tolerant) (respelled : expr.Respelled other)
    (binding : Binding) :
    Agree QueryError.kind Eq (ofExpr scope expr binding) (ofExpr scope other binding) := by
  fun_induction ofExpr scope expr binding generalizing other with
  | case1 left right binding before behind =>
      cases respelled with
      | same => exact .refl _
      | binary op first second =>
          rw [ofExpr]
          refine (before first).bind ?_
          rintro ⟨condition, rest⟩ _ rfl
          refine (behind rest second).bind ?_
          rintro ⟨last, rest⟩ _ rfl
          exact .ok rfl
  | case2 left right binding before behind =>
      cases respelled with
      | same => exact .refl _
      | binary op first second =>
          rw [ofExpr]
          refine (before first).bind ?_
          rintro ⟨condition, rest⟩ _ rfl
          refine (behind rest second).bind ?_
          rintro ⟨last, rest⟩ _ rfl
          exact .ok rfl
  | case3 op left right binding =>
      cases respelled with
      | same => exact .refl _
      | binary _ first second => exact ofComparison_agree tolerant first second op binding
  | case4 operand binding ih =>
      cases respelled with
      | same => exact .refl _
      | not inside =>
          rw [ofExpr]
          refine (ih inside).bind ?_
          rintro ⟨condition, rest⟩ _ rfl
          exact .ok rfl
  | case5 operand binding =>
      cases respelled with
      | same => exact .refl _
      | isNull inside =>
          exact (ofNullTest_agree tolerant inside false).map fun same => congrArg (·, binding) same
  | case6 operand binding =>
      cases respelled with
      | same => exact .refl _
      | isNotNull inside =>
          exact (ofNullTest_agree tolerant inside true).map fun same => congrArg (·, binding) same
  | case7 operand items negated binding =>
      cases respelled with
      | same => exact .refl _
      | inList negated inside each => exact ofMembership_agree tolerant inside each negated binding
  | case8 value binding =>
      cases respelled with
      | same => exact .refl _
  | case9 name binding =>
      cases respelled with
      | same => exact .refl _
      | column loosely =>
          exact (ofField_agree tolerant (.column loosely)).map fun same => congrArg (·, binding) same
  | case10 table column binding =>
      cases respelled with
      | same => exact .refl _
      | qualified table loosely =>
          exact (ofField_agree tolerant (.qualified table loosely)).map
            fun same => congrArg (·, binding) same
  | case11 expr binding noAnd noOr noComparison noNot noIsNull noIsNotNull noList noBoolean noColumn
      noQualified =>
      cases respelled with
      | same =>
          rw [ofExpr]
          · exact .error rfl
          all_goals assumption
      | call name each => exact .error rfl
      | column => exact (noColumn _ rfl).elim
      | qualified => exact (noQualified _ _ rfl).elim
      | binary op =>
          cases op with
          | compare op => exact (noComparison _ _ _ rfl).elim
          | and => exact (noAnd _ _ rfl).elim
          | or => exact (noOr _ _ rfl).elim
      | not => exact (noNot _ rfl).elim
      | isNull => exact (noIsNull _ rfl).elim
      | isNotNull => exact (noIsNotNull _ rfl).elim
      | inList => exact (noList _ _ _ rfl).elim

/-! ## Answers -/

variable {given others : Fields}

theorem similar_self (value : Option Value) : Option.Rel Value.Similar value value := by
  cases value with
  | none => exact .none
  | some value => exact .some (.same value)

theorem operandValue_of_paired (paired : Fields.Paired (fun _ => Value.Similar) given others)
    (arguments : Arguments) (operand : Operand) :
    ∃ first second, operandValue (.object given) arguments operand = .ok first ∧
      operandValue (.object others) arguments operand = .ok second ∧
      Option.Rel Value.Similar first second := by
  cases operand with
  | field field => exact field.get_of_paired paired id
  | constant value => exact ⟨_, _, rfl, rfl, similar_self _⟩
  | slot slot => exact ⟨_, _, rfl, rfl, similar_self _⟩

theorem evaluate_agree (paired : Fields.Paired (fun _ => Value.Similar) given others)
    (arguments : Arguments) (condition : Condition) :
    Agree QueryError.kind Eq (condition.evaluate (.object given) arguments)
      (condition.evaluate (.object others) arguments) := by
  -- What a field holds differs only in ways that no test looks at.
  have read (field : Accessor) := field.get_of_paired paired id
  induction condition with
  | literal value => exact .refl _
  | and left right before behind =>
      refine before.bind ?_
      rintro passed _ rfl
      cases passed with
      | true => exact behind
      | false => exact .ok rfl
  | or left right before behind =>
      refine before.bind ?_
      rintro passed _ rfl
      cases passed with
      | true => exact .ok rfl
      | false => exact behind
  | not operand ih =>
      refine ih.bind ?_
      rintro passed _ rfl
      exact .ok rfl
  | isNull field negated =>
      rcases read field with ⟨first, second, own, other, same⟩
      rw [evaluate, evaluate, own, other]
      cases same with
      | none => exact .ok rfl
      | some similar => exact .ok rfl
  | guarded field condition ih =>
      rcases read field with ⟨first, second, own, other, same⟩
      rw [evaluate, evaluate, own, other]
      cases same with
      | none => exact .ok rfl
      | some similar => exact ih
  | compare field op right kind =>
      rcases read field with ⟨first, second, own, other, same⟩
      rw [evaluate, evaluate, own, other]
      cases same with
      | none => exact .ok rfl
      | @some left second left_ =>
          rcases operandValue_of_paired paired arguments right with
            ⟨first, second, own, other, same⟩
          simp only [Outcome.ok_bind, own, other]
          cases same with
          | none => exact .ok rfl
          | some right_ =>
              dsimp only
              rw [left_.compareValues_eq right_]
              split
              · exact .ok rfl
              · exact .error rfl
  | member field group negated =>
      rcases read field with ⟨first, second, own, other, same⟩
      rw [evaluate, evaluate, own, other]
      cases same with
      | none => exact .ok rfl
      | some similar =>
          simp only [Outcome.ok_bind]
          split
          · rw [similar.contains_eq]
            exact .ok rfl
          · exact .error rfl

end Condition

end RecordQuery
