import RecordQuery.Proofs.Condition.Demands

/-!
# Arguments that a condition takes

A run can use its arguments when there is one for each placeholder and each can be brought to the
kind of the field that its placeholder is compared with. So whether arguments expand can be told
from the expression, and nothing else that it states matters.
-/

namespace RecordQuery

open Sql (Expr CompareOp)

/-! ## Slots that can be filled -/

namespace Binding

variable {binding : Binding} {args : List Value}

/-- Every slot of every group can be filled. -/
def Fillable (binding : Binding) (args : List Value) : Prop :=
  ∀ group ∈ binding.groups, ∀ slot ∈ binding.slotsOf group, ∃ value,
    fill args group slot = .ok value

theorem fillable_empty (args : List Value) : Fillable empty args := by
  simp [Fillable, empty]

/-- The slots of a binding can be filled when the arguments meet its demands. -/
theorem fillable_iff :
    binding.Fillable args ↔ ∀ demand ∈ binding.demands, demand.refusal? args = none := by
  simp only [Fillable, ← Outcome.error?_eq_none_iff, error?_fill, demands, List.mem_flatMap,
    List.mem_filterMap, Option.bind_eq_none_iff]
  constructor
  · rintro all demand ⟨group, member, slot, own, same⟩
    exact all group member slot own demand same
  · intro all group member slot own demand same
    exact all demand ⟨group, member, slot, own, same⟩

/-- Arguments are expanded exactly when there is one for each placeholder and all slots can be
filled. -/
theorem expand_iff_fillable :
    (∃ arguments, binding.expand args = .ok arguments) ↔
      args.length = binding.placeholders ∧ binding.Fillable args := by
  by_cases count : args.length = binding.placeholders
  · rw [← Outcome.error?_eq_none_iff, error?_expand count, List.findSome?_eq_none_iff, fillable_iff]
    exact (and_iff_right count).symm
  · simp [expand, count]

theorem coerce_iff_isSome {name : String} {kind : ScalarKind} (value : Value) :
    (∃ converted, coerce name kind value = .ok converted) ↔ (coerce? kind value).isSome := by
  simp only [coerce_eq_ok, Option.isSome_iff_exists]

end Binding

/-! ## Values that an expression accepts -/

namespace Scope

@[simp] theorem field?_placeholder (scope : Scope) (index : Nat) :
    scope.field? (.placeholder index) = .ok none := rfl

/-- Whether a placeholder is given a value of the kind of a field. -/
def acceptsOperand (given : Nat → Value) (field : Accessor) : Expr → Prop
  | .placeholder index =>
      ∀ kind, field.schema.kind? = some kind → (coerce? kind (given index)).isSome
  | _ => True

/-- Whether all placeholders of an expression are given values of the kinds of the fields that they
are compared with. -/
def accepts (scope : Scope) (given : Nat → Value) : Expr → Prop
  | .binary .and left right | .binary .or left right =>
      scope.accepts given left ∧ scope.accepts given right
  | .binary (.compare _) left right =>
      match scope.field? left, scope.field? right with
      | .ok (some field), .ok none => acceptsOperand given field right
      | .ok none, .ok (some field) => acceptsOperand given field left
      | _, _ => True
  | .not operand => scope.accepts given operand
  | .inList operand items _ =>
      ∀ field, scope.requireField operand = .ok field → ∀ item ∈ items,
        acceptsOperand given field item
  | _ => True

/-- An expression accepts values that its demands are met by. -/
theorem acceptsOperand_iff_demands (given : Nat → Value) (field : Accessor) (operand : Expr) :
    acceptsOperand given field operand ↔
      ∀ demand ∈ field.demands operand, (coerce? demand.kind (given demand.place)).isSome := by
  cases operand with
  | placeholder index =>
      rw [acceptsOperand, Accessor.demands]
      cases field.schema.kind? <;> simp
  | _ => simp [acceptsOperand, Accessor.demands]

theorem accepts_iff_demands (scope : Scope) (given : Nat → Value) (expr : Expr) :
    scope.accepts given expr ↔
      ∀ demand ∈ scope.demands expr, (coerce? demand.kind (given demand.place)).isSome := by
  fun_induction accepts scope given expr with
  | case1 left right ihLeft ihRight | case2 left right ihLeft ihRight =>
      rw [Scope.demands, List.forall_mem_append, ihLeft, ihRight]
  | case3 op left right field own none =>
      rw [Scope.demands, own, none]
      exact acceptsOperand_iff_demands given field right
  | case4 op left right field none own =>
      rw [Scope.demands, none, own]
      exact acceptsOperand_iff_demands given field left
  | case5 op left right notLeft notRight =>
      have none : scope.demands (.binary (.compare op) left right) = [] := by
        rw [Scope.demands]
        split
        · exact (notLeft _ ‹_› ‹_›).elim
        · exact (notRight _ ‹_› ‹_›).elim
        · rfl
      simp [none]
  | case6 operand ih => exact ih
  | case7 operand items negated =>
      rw [Scope.demands]
      cases required : scope.requireField operand with
      | error error => simp
      | ok field =>
          rw [List.forall_mem_flatMap]
          simp only [Except.ok.injEq, forall_eq', acceptsOperand_iff_demands]
  | case8 expr =>
      have none : scope.demands expr = [] := by rw [Scope.demands] <;> assumption
      simp [none]

end Scope

namespace Condition

variable {scope : Scope} {binding bound : Binding} {condition : Condition} {field : Accessor}

/-- The literals of an `IN` list have been converted. -/
theorem coerce_of_pushItems {filled : Binding} {name : String} {kind : ScalarKind}
    {values : List (Option Value)} (pushed : binding.pushItems name kind values = (.ok (), filled))
    {literal : Value} (member : some literal ∈ values) :
    ∃ value, coerce name kind literal = .ok value := by
  induction values generalizing binding with
  | nil => cases member
  | cons first rest ih =>
      cases first with
      | none =>
          rcases List.mem_cons.1 member with same | later
          · cases same
          · exact ih pushed later
      | some given =>
          rw [Binding.pushItems] at pushed
          split at pushed
          · rename_i value converted
            rcases List.mem_cons.1 member with same | later
            · cases same
              exact ⟨value, converted⟩
            · exact ih pushed later
          · cases pushed

theorem pushItems_of_coerce {name : String} {kind : ScalarKind}
    {values : List (Option Value)}
    (converts : ∀ literal, some literal ∈ values → (coerce? kind literal).isSome)
    (binding : Binding) : ∃ filled, binding.pushItems name kind values = (.ok (), filled) := by
  induction values generalizing binding with
  | nil => exact ⟨binding, rfl⟩
  | cons first rest ih =>
      have behind := ih fun literal later => converts literal (List.mem_cons_of_mem _ later)
      cases first with
      | none => exact behind binding.pushPlaceholder
      | some literal =>
          rcases Option.isSome_iff_exists.1 (converts literal List.mem_cons_self) with
            ⟨value, converted⟩
          rw [Binding.pushItems, coerce, converted]
          exact behind (binding.pushLiteral value)

/-- What may stand in an `IN` list of a kind: placeholders, and literals that can be values of the
kind. -/
def Listed (kind : ScalarKind) (item : Expr) : Prop :=
  (∃ index, item = .placeholder index) ∨
    item ≠ .null ∧ ∃ literal, item.literal? = some literal ∧ (coerce? kind literal).isSome

theorem listItem_of_literal? {item : Expr} {literal : Value} (known : item.literal? = some literal)
    (notNull : item ≠ .null) : listItem field item = .ok (some literal) := by
  cases item with
  | null => exact absurd rfl notNull
  | integer | float | string | boolean =>
      cases known
      rfl
  | _ => cases known

/-- The items of a bound `IN` list may stand there. -/
theorem listed_of_pushItems {filled : Binding} {kind : ScalarKind} {items : List Expr}
    {values : List (Option Value)} (listed : items.mapM (listItem field) = .ok values)
    (pushed : binding.pushItems field.name kind values = (.ok (), filled)) :
    ∀ item ∈ items, Listed kind item := by
  intro item member
  rcases Outcome.exists_result_of_mem (Outcome.mapM_eq_ok.1 listed) member with
    ⟨value, inside, made⟩
  rcases listItem_eq_ok made with ⟨index, rfl, -⟩ | ⟨literal, plain, rfl, -⟩
  · exact .inl ⟨index, rfl⟩
  · refine .inr ⟨?_, literal, plain, ?_⟩
    · rintro rfl
      cases made
    · exact (Binding.coerce_iff_isSome literal).1 (coerce_of_pushItems pushed inside)

/-- The items of an `IN` list are members when the placeholders among them are given values of the
kind. -/
theorem memberOf_iff_acceptsOperand {kind : ScalarKind} {item : Expr}
    (known : field.schema.kind? = some kind) (listed : Listed kind item) (given : Nat → Value) :
    (∃ value, Scope.memberOf given field kind item = .ok value) ↔
      Scope.acceptsOperand given field item := by
  rcases listed with ⟨index, rfl⟩ | ⟨notNull, literal, plain, converts⟩
  · rw [Scope.memberOf, Scope.acceptsOperand, Binding.coerce_iff_isSome]
    simp [known]
  · cases item with
    | integer | float | string | boolean =>
        cases plain
        exact iff_of_true ((Binding.coerce_iff_isSome _).2 converts) trivial
    | null => exact absurd rfl notNull
    | _ => cases plain

/-- Whether a test for membership is bound depends on its field and on its items, one by one. -/
theorem ofMembership_isOk_iff {operand : Expr} {items : List Expr} {negated : Bool} :
    (∃ result, ofMembership scope operand items negated binding = .ok result) ↔
      ∃ field kind, scope.requireField operand = .ok field ∧ Scope.setKind field = .ok kind ∧
        ∀ item ∈ items, Listed kind item := by
  constructor
  · rintro ⟨⟨condition, bound⟩, found⟩
    obtain ⟨field, kind, values, group, required, set, listed, added, -⟩ := ofMembership_iff.1 found
    rw [Binding.addMembership] at added
    split at added
    case h_2 => cases added
    rename_i filled pushed
    exact ⟨field, kind, required, set, listed_of_pushItems listed pushed⟩
  · rintro ⟨field, kind, required, set, each⟩
    have listed : ∀ item ∈ items, ∃ value, listItem field item = .ok value := by
      intro item member
      rcases each item member with ⟨index, rfl⟩ | ⟨notNull, literal, plain, -⟩
      · exact ⟨none, rfl⟩
      · exact ⟨_, listItem_of_literal? plain notNull⟩
    rcases Outcome.exists_mapM_eq_ok.2 listed with ⟨values, listed⟩
    have converts : ∀ literal, some literal ∈ values → (coerce? kind literal).isSome := by
      intro literal inside
      rcases Outcome.exists_item_of_mem (Outcome.mapM_eq_ok.1 listed) inside with
        ⟨item, member, made⟩
      rcases each item member with ⟨index, rfl⟩ | ⟨notNull, other, plain, converts⟩
      · cases made
      · rw [listItem_of_literal? plain notNull] at made
        cases made
        exact converts
    have added : ∃ group bound,
        binding.addMembership field.name kind values = (.ok group, bound) := by
      rcases pushItems_of_coerce converts binding with ⟨filled, pushed⟩
      rw [Binding.addMembership, pushed]
      exact ⟨_, _, rfl⟩
    rcases added with ⟨group, bound, added⟩
    exact ⟨_, ofMembership_iff.2 ⟨field, kind, values, group, required, set, listed, added, rfl⟩⟩

/-- An expression without placeholders accepts everything. -/
theorem accepts_of_plain {expr : Expr} (found : ofExpr scope expr binding = .ok (condition, bound))
    (plain : expr.placeholders = []) (given : Nat → Value) : scope.accepts given expr := by
  have none := (addsFor_of_ofExpr found).indices
  rw [plain, List.map_eq_nil_iff] at none
  rw [Scope.accepts_iff_demands, none]
  exact nofun

/-- A bound expression can be filled exactly when it accepts the values that its placeholders are
given. -/
theorem fillable_iff_accepts {expr : Expr} {args : List Value} {given : Nat → Value}
    (found : ofExpr scope expr binding = .ok (condition, bound)) (ordered : binding.Ordered)
    (placed : expr.placeholders.map given <+: args.drop binding.placeholders) :
    bound.Fillable args ↔ binding.Fillable args ∧ scope.accepts given expr := by
  have addsFor := addsFor_of_ofExpr found
  rw [← addsFor.indices] at placed
  rw [Binding.fillable_iff, Binding.fillable_iff, addsFor.adds.demands ordered,
    List.forall_mem_append, Demand.forall_refusal?_placed_iff placed, Scope.accepts_iff_demands]

/-- Arguments in the order of their numbers. -/
theorem map_range_getD (args : List Value) :
    (List.range args.length).map (args.getD · .null) = args := by
  refine List.ext_getElem (by simp) fun index _ inside => ?_
  rw [List.getElem_map, List.getElem_range, List.getD_eq_getElem?_getD,
    List.getElem?_eq_getElem inside]
  rfl

variable {expr : Expr} {args : List Value} {arguments : Arguments}

/-- The arguments of a bound expression expand exactly when there is one for each placeholder and
the expression accepts them. -/
theorem expand_iff_accepts (found : ofExpr scope expr .empty = .ok (condition, bound))
    (numbered : expr.placeholders = List.range expr.placeholders.length) :
    (∃ arguments, bound.expand args = .ok arguments) ↔
      args.length = expr.placeholders.length ∧ scope.accepts (args.getD · .null) expr := by
  have count : bound.placeholders = expr.placeholders.length :=
    (states_of_ofExpr found).count.trans (Nat.zero_add _)
  rw [Binding.expand_iff_fillable, count]
  refine and_congr_right fun same => ?_
  have placed : expr.placeholders.map (args.getD · .null) <+:
      args.drop Binding.empty.placeholders := by
    rw [numbered, ← same, map_range_getD]
    exact List.prefix_rfl
  rw [fillable_iff_accepts found Binding.ordered_empty placed]
  simp [Binding.fillable_empty]

/-- A bound expression tests records as it does with the arguments at the places of its
placeholders. -/
theorem evaluate_eq_test (found : ofExpr scope expr .empty = .ok (condition, bound))
    (numbered : expr.placeholders = List.range expr.placeholders.length)
    (expanded : bound.expand args = .ok arguments) (record : Value) :
    condition.evaluate record arguments = scope.test (args.getD · .null) record expr := by
  have same := ((expand_iff_accepts found numbered).1 ⟨arguments, expanded⟩).1
  have placed : expr.placeholders.map (args.getD · .null) <+:
      args.drop Binding.empty.placeholders := by
    rw [numbered, ← same, map_range_getD]
    exact List.prefix_rfl
  have ordered := (addsFor_of_ofExpr found).adds.ordered Binding.ordered_empty
  exact (states_of_ofExpr found).same (.refl bound) ordered expanded _ placed record

end Condition

end RecordQuery
