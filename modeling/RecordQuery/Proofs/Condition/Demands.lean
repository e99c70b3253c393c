import RecordQuery.Proofs.Condition.Positions

/-!
# What placeholders demand

A placeholder demands the argument at its place, as a value of the kind of the field that it is
compared with. The demands of an expression are told by its text and by the fields alone, in the
order of the text. Binding the expression adds just these to the demands of a binding, so a run can
use its arguments when they meet all demands, and else fails at the first one that is not met.
-/

namespace RecordQuery

open Sql (Expr CompareOp)

/-- The argument at a place, wanted as a value of the kind of a field. -/
structure Demand where
  place : Nat
  field : String
  kind : ScalarKind
  deriving DecidableEq, Repr

namespace Demand

/-- The argument at the place; null behind the last one. -/
def argument (demand : Demand) (args : List Value) : Value := args.getD demand.place .null

/-- The error for an argument that cannot be a value of the kind. -/
def refusal? (demand : Demand) (args : List Value) : Option QueryError :=
  if (coerce? demand.kind (demand.argument args)).isSome then none
  else some (.compile (.invalidArgument demand.field (demand.argument args) demand.kind))

/-- The demand when some arguments have been taken before. -/
def behind (taken : Nat) (demand : Demand) : Demand :=
  { demand with place := taken + demand.place }

/-- Demands for the arguments from a place on, one after the other. -/
def placed (start : Nat) (demands : List Demand) : List Demand :=
  demands.mapIdx fun index demand => { demand with place := start + index }

variable {start : Nat} {demands : List Demand}

theorem refusal?_eq_none_iff {demand : Demand} {args : List Value} :
    demand.refusal? args = none ↔ (coerce? demand.kind (demand.argument args)).isSome := by
  simp [refusal?, Option.isSome_iff_ne_none]

@[simp] theorem length_placed : (placed start demands).length = demands.length :=
  List.length_mapIdx

theorem placed_append (first second : List Demand) :
    placed start (first ++ second) =
      placed start first ++ placed (start + first.length) second := by
  simp only [placed, List.mapIdx_append, Nat.add_assoc, Nat.add_comm first.length]

theorem placed_cons (demand : Demand) (rest : List Demand) :
    placed start (demand :: rest) = { demand with place := start } :: placed (start + 1) rest :=
  placed_append [demand] rest

theorem places_placed : (placed start demands).map place = List.range' start demands.length := by
  refine List.ext_getElem (by simp) fun index _ _ => ?_
  simp [placed]

/-- Demands that stand for the first arguments already are only moved. -/
theorem placed_eq_map_behind (numbered : demands.map place = List.range demands.length) :
    placed start demands = demands.map (behind start) := by
  refine List.ext_getElem (by simp) fun index _ inside => ?_
  rw [List.length_map] at inside
  have own := congrArg (·[index]?) numbered
  simp only [List.getElem?_map, List.getElem?_eq_getElem inside, List.getElem?_range inside,
    Option.map_some, Option.some.injEq] at own
  simp [placed, behind, own]

/-- Arguments from a place on meet demands when the values that are given for the places in the text
do. -/
theorem forall_refusal?_placed_iff {args : List Value} {given : Nat → Value}
    (placed : (demands.map place).map given <+: args.drop start) :
    (∀ demand ∈ Demand.placed start demands, demand.refusal? args = none) ↔
      ∀ demand ∈ demands, (coerce? demand.kind (given demand.place)).isSome := by
  induction demands generalizing start with
  | nil => simp [Demand.placed]
  | cons demand rest ih =>
      rcases given_cons placed with ⟨here, behind⟩
      rw [placed_cons, List.forall_mem_cons, List.forall_mem_cons, ih behind, refusal?_eq_none_iff]
      simp only [argument, here]

end Demand

/-! ## Demands of a binding -/

/-- What a slot of a group demands. -/
def Group.demand? (group : Group) (slot : Slot) : Option Demand :=
  match slot.content with
  | .placeholder index => some ⟨index, group.name, group.kind⟩
  | .literal _ => none

namespace Binding

variable {binding filled middle bound : Binding} {name : String} {kind : ScalarKind}
  {more : List Slot} {args : List Value}

/-- What the slots of a binding demand, in the order of the text. -/
def demands (binding : Binding) : List Demand :=
  binding.groups.flatMap fun group => (binding.slotsOf group).filterMap group.demand?

theorem error?_coerce (name : String) (kind : ScalarKind) (value : Value) :
    Outcome.error? (coerce name kind value) =
      if (coerce? kind value).isSome then none
      else some (.compile (.invalidArgument name value kind)) := by
  rw [coerce]
  cases coerce? kind value <;> rfl

theorem error?_fill (args : List Value) (group : Group) (slot : Slot) :
    Outcome.error? (fill args group slot) = (group.demand? slot).bind (·.refusal? args) := by
  rw [fill, Group.demand?]
  cases slot.content with
  | literal value => rfl
  | placeholder index => exact error?_coerce group.name group.kind (args.getD index .null)

/-- A group is expanded unless a demand of its slots is refused. -/
theorem error?_expandGroup (before : Arguments) (group : Group) :
    Outcome.error? (binding.expandGroup args before group) =
      ((binding.slotsOf group).filterMap group.demand?).findSome? (·.refusal? args) := by
  rw [expandGroup, Outcome.error?_bind _ _ none fun found _ => rfl, Option.or_none,
    Outcome.error?_mapM]
  induction binding.slotsOf group with
  | nil => rfl
  | cons slot rest ih =>
      rw [List.findSome?_cons, List.filterMap_cons, error?_fill, ih]
      cases group.demand? slot with
      | none => rfl
      | some demand => rw [Option.bind_some, List.findSome?_cons]

/-- With one argument for each placeholder, an expansion fails just with the refusal of the first
demand that is not met. -/
theorem error?_expand (count : args.length = binding.placeholders) :
    Outcome.error? (binding.expand args) = binding.demands.findSome? (·.refusal? args) := by
  rw [expand, if_neg (not_ne_iff.2 count), Outcome.error?_foldlM error?_expandGroup, demands]
  induction binding.groups with
  | nil => rfl
  | cons group rest ih =>
      rw [List.findSome?_cons, List.flatMap_cons, List.findSome?_append, ← ih]
      cases ((binding.slotsOf group).filterMap group.demand?).findSome? (·.refusal? args) <;> rfl

/-- One more group adds the demands of its slots. -/
theorem demands_pushGroup (grown : Grown kind binding filled more) (ordered : binding.Ordered)
    (membership : Bool) :
    (filled.pushGroup name kind binding.slots.length membership).demands =
      binding.demands ++ more.filterMap
        (Group.demand? ⟨name, kind, binding.slots.length, filled.slots.length, membership⟩) := by
  have old (group : Group) (member : group ∈ binding.groups) :
      (filled.pushGroup name kind binding.slots.length membership).slotsOf group =
        binding.slotsOf group :=
    slotsOf_of_append grown.slots (last_le_of_covers ordered.covers group member)
  have new : (filled.pushGroup name kind binding.slots.length membership).slotsOf
      ⟨name, kind, binding.slots.length, filled.slots.length, membership⟩ = more :=
    slotsOf_added grown.slots membership
  have groups : (filled.pushGroup name kind binding.slots.length membership).groups =
      binding.groups ++ [⟨name, kind, binding.slots.length, filled.slots.length, membership⟩] := by
    rw [pushGroup, grown.groups]
  rw [demands, groups, List.flatMap_append, List.flatMap_singleton, new, demands]
  congr 1
  exact List.flatMap_congr fun group member => by rw [old group member]

/-- Parts of a statement bound in turn add demands for the next arguments. -/
structure Adds (binding bound : Binding) (demands : List Demand) : Prop where
  ordered : binding.Ordered → bound.Ordered
  count : bound.placeholders = binding.placeholders + demands.length
  places : demands.map Demand.place = List.range' binding.placeholders demands.length
  demands : binding.Ordered → bound.demands = binding.demands ++ demands

theorem Adds.refl (binding : Binding) : Adds binding binding [] where
  ordered := id
  count := rfl
  places := rfl
  demands _ := (List.append_nil _).symm

theorem Adds.trans {first second : List Demand} (adds : Adds binding middle first)
    (behind : Adds middle bound second) : Adds binding bound (first ++ second) where
  ordered := behind.ordered ∘ adds.ordered
  count := by rw [behind.count, adds.count, List.length_append, Nat.add_assoc]
  places := by
    rw [List.map_append, adds.places, behind.places, adds.count, List.length_append,
      List.range'_append_1]
  demands ordered := by
    rw [behind.demands (adds.ordered ordered), adds.demands ordered, List.append_assoc]

/-- What is added to the empty binding is all that is demanded. -/
theorem Adds.of_empty {demands : List Demand} (adds : Adds empty bound demands) :
    bound.demands = demands ∧ demands.map Demand.place = List.range bound.placeholders := by
  have count : bound.placeholders = demands.length := adds.count.trans (Nat.zero_add _)
  exact ⟨adds.demands ordered_empty, by rw [count, List.range_eq_range', adds.places]; rfl⟩

/-- What the placeholders with the given numbers demand is added for the next arguments. -/
structure AddsFor (binding bound : Binding) (indices : List Nat) (demands : List Demand) :
    Prop where
  indices : demands.map Demand.place = indices
  adds : Adds binding bound (Demand.placed binding.placeholders demands)

theorem AddsFor.refl (binding : Binding) : AddsFor binding binding [] [] := ⟨rfl, .refl binding⟩

theorem AddsFor.trans {indices others : List Nat} {first second : List Demand}
    (adds : AddsFor binding middle indices first) (behind : AddsFor middle bound others second) :
    AddsFor binding bound (indices ++ others) (first ++ second) where
  indices := by rw [List.map_append, adds.indices, behind.indices]
  adds := by
    have count := adds.adds.count
    rw [Demand.length_placed] at count
    rw [Demand.placed_append, ← count]
    exact adds.adds.trans behind.adds

/-- The slots of a new group add their demands. -/
theorem adds_pushGroup {demands : List Demand} (grown : Grown kind binding filled more)
    (count : filled.placeholders = binding.placeholders + demands.length) (membership : Bool)
    (own : more.filterMap
        (Group.demand? ⟨name, kind, binding.slots.length, filled.slots.length, membership⟩) =
      Demand.placed binding.placeholders demands) :
    Adds binding (filled.pushGroup name kind binding.slots.length membership)
      (Demand.placed binding.placeholders demands) where
  ordered := (extends_pushGroup grown membership).ordered
  count := count.trans (congrArg _ Demand.length_placed.symm)
  places := by rw [Demand.places_placed, Demand.length_placed]
  demands ordered := own ▸ demands_pushGroup grown ordered membership

end Binding

/-! ## Demands of an expression -/

/-- What an operand demands that a field is compared with. -/
def Accessor.demands (field : Accessor) : Expr → List Demand
  | .placeholder index => field.schema.kind?.toList.map fun kind => ⟨index, field.name, kind⟩
  | _ => []

/-- What the placeholders of an expression demand, in the order of the text. -/
def Scope.demands (scope : Scope) : Expr → List Demand
  | .binary .and left right | .binary .or left right => scope.demands left ++ scope.demands right
  | .binary (.compare _) left right =>
      match scope.field? left, scope.field? right with
      | .ok (some field), .ok none => field.demands right
      | .ok none, .ok (some field) => field.demands left
      | _, _ => []
  | .not operand => scope.demands operand
  | .inList operand items _ =>
      match scope.requireField operand with
      | .ok field => items.flatMap field.demands
      | .error _ => []
  | _ => []

namespace Condition

open Binding (Adds AddsFor Grown)

variable {scope : Scope} {binding filled bound : Binding} {condition : Condition}
  {field : Accessor} {kind : ScalarKind}

theorem demands_of_not_placeholder {operand : Expr}
    (other : ∀ index, operand ≠ .placeholder index) : field.demands operand = [] := by
  cases operand with
  | placeholder index => exact absurd rfl (other index)
  | _ => rfl

theorem demands_placeholder (known : field.schema.kind? = some kind) (index : Nat) :
    field.demands (.placeholder index) = [⟨index, field.name, kind⟩] := by
  rw [Accessor.demands, known]
  rfl

theorem comparableKind_eq_ok {kind : ScalarKind} :
    comparableKind field = .ok kind ↔ field.schema.kind? = some kind := by
  rw [comparableKind]
  cases field.schema.kind? <;> simp

theorem addsFor_of_ofOperand {op : CompareOp} {operand : Expr}
    (found : ofOperand field op operand binding = .ok (condition, bound)) :
    AddsFor binding bound operand.placeholders (field.demands operand) := by
  by_cases placeholder : ∃ index, operand = .placeholder index
  · rcases placeholder with ⟨index, rfl⟩
    rcases Outcome.bind_eq_ok.1 found with ⟨kind, known, same⟩
    cases same
    rw [demands_placeholder (comparableKind_eq_ok.1 known)]
    have one : Grown kind binding binding.pushPlaceholder
        [⟨binding.slots.length, .placeholder binding.placeholders⟩] :=
      (Grown.nil kind binding.pushPlaceholder).cons_placeholder
    exact ⟨rfl, Binding.adds_pushGroup one rfl false rfl⟩
  · have other (index : Nat) : operand ≠ .placeholder index := fun same => placeholder ⟨index, same⟩
    rcases ofOperand_of_not_placeholder other found with ⟨rfl, none, -⟩
    rw [none, demands_of_not_placeholder other]
    exact .refl bound

theorem addsFor_of_ofComparison {left right : Expr} {op : CompareOp}
    (found : ofComparison scope left op right binding = .ok (condition, bound)) :
    AddsFor binding bound (left.placeholders ++ right.placeholders)
      (scope.demands (.binary (.compare op) left right)) := by
  rcases Outcome.bind_eq_ok.1 found with ⟨leftField, readLeft, found⟩
  rcases Outcome.bind_eq_ok.1 found with ⟨rightField, readRight, found⟩
  rw [Scope.demands, readLeft, readRight]
  cases leftField with
  | some first =>
      rw [Scope.placeholders_of_field? readLeft, List.nil_append]
      cases rightField with
      | some second =>
          rw [Scope.placeholders_of_field? readRight]
          rcases Outcome.bind_eq_ok.1 found with ⟨compared, made, same⟩
          cases same
          exact .refl binding
      | none => exact addsFor_of_ofOperand found
  | none =>
      cases rightField with
      | some second =>
          rw [Scope.placeholders_of_field? readRight, List.append_nil]
          exact addsFor_of_ofOperand found
      | none =>
          rcases Outcome.bind_eq_ok.1 found with ⟨compared, made, same⟩
          cases same
          rcases placeholders_of_ofLiterals made with ⟨noneLeft, noneRight⟩
          rw [noneLeft, noneRight]
          exact .refl binding

/-- The slots of the items of a list demand what the placeholders among them do. -/
theorem demands_of_pushItems (known : field.schema.kind? = some kind) {items : List Expr}
    {values : List (Option Value)} (listed : items.mapM (listItem field) = .ok values)
    (pushed : binding.pushItems field.name kind values = (.ok (), filled)) :
    ∃ more, Grown kind binding filled more ∧
      filled.placeholders = binding.placeholders + (items.flatMap field.demands).length ∧
      (items.flatMap field.demands).map Demand.place = Sql.placeholdersOf items ∧
      ∀ first last membership,
        more.filterMap (Group.demand? ⟨field.name, kind, first, last, membership⟩) =
          Demand.placed binding.placeholders (items.flatMap field.demands) := by
  induction items generalizing binding values with
  | nil =>
      cases Outcome.mapM_eq_ok.1 listed
      cases pushed
      exact ⟨[], .nil kind _, rfl, rfl, fun _ _ _ => rfl⟩
  | cons item rest ih =>
      rcases List.forall₂_cons_left_iff.1 (Outcome.mapM_eq_ok.1 listed) with
        ⟨value, others, first, behind, rfl⟩
      have listedBehind := Outcome.mapM_eq_ok.2 behind
      rw [List.flatMap_cons, Sql.placeholdersOf]
      rcases listItem_eq_ok first with ⟨index, rfl, rfl⟩ | ⟨literal, plain, rfl, -⟩
      · obtain ⟨more, grown, count, indices, own⟩ := ih listedBehind pushed
        rw [demands_placeholder known]
        refine ⟨_, grown.cons_placeholder, ?_, ?_, fun first last membership => ?_⟩
        · rw [count, List.length_append, List.length_singleton, ← Nat.add_assoc]
          rfl
        · rw [List.map_append, indices]
          rfl
        · rw [List.filterMap_cons, own, List.singleton_append, Demand.placed_cons]
          rfl
      · rw [Binding.pushItems] at pushed
        split at pushed
        · rename_i value converted
          obtain ⟨more, grown, count, indices, own⟩ := ih listedBehind pushed
          have none : item.placeholders = [] := Expr.placeholders_of_literal? plain
          have other (index : Nat) : item ≠ .placeholder index := by
            rintro rfl
            cases none
          rw [demands_of_not_placeholder other, none, List.nil_append, List.nil_append]
          refine ⟨_, grown.cons_literal ⟨_, coerce_eq_ok.1 converted⟩, count, indices,
            fun first last membership => ?_⟩
          rw [List.filterMap_cons, own]
          rfl
        · cases pushed

theorem kind?_of_setKind (set : Scope.setKind field = .ok kind) :
    field.schema.kind? = some kind ∧ (kind = .int ∨ kind = .string) := by
  rw [Scope.setKind] at set
  split at set
  · rename_i known
    cases set
    exact ⟨known, .inl rfl⟩
  · rename_i known
    cases set
    exact ⟨known, .inr rfl⟩
  · cases set

/-- All that binding a test for membership takes. -/
theorem ofMembership_iff {operand : Expr} {items : List Expr} {negated : Bool} :
    ofMembership scope operand items negated binding = .ok (condition, bound) ↔
      ∃ field kind values group, scope.requireField operand = .ok field ∧
        Scope.setKind field = .ok kind ∧ items.mapM (listItem field) = .ok values ∧
        binding.addMembership field.name kind values = (.ok group, bound) ∧
        condition = guardedBy field (.member field group negated) := by
  constructor
  · intro found
    rcases Outcome.bind_eq_ok.1 found with ⟨field, required, found⟩
    dsimp only at found
    split at found
    case h_3 => cases found
    all_goals
      rename_i own
      rcases Outcome.bind_eq_ok.1 found with ⟨kind, same, found⟩
      cases same
      rcases Outcome.bind_eq_ok.1 found with ⟨values, listed, found⟩
      split at found
      · rename_i group last added
        cases found
        exact ⟨field, _, values, group, required, by simp [Scope.setKind, own], listed, added, rfl⟩
      · cases found
  · rintro ⟨field, kind, values, group, required, set, listed, added, rfl⟩
    rcases kind?_of_setKind set with ⟨known, rfl | rfl⟩
    all_goals
      rw [ofMembership, required, Outcome.ok_bind]
      simp only [known, Outcome.pure_eq, Outcome.ok_bind, listed, added]

theorem addsFor_of_ofMembership {operand : Expr} {items : List Expr} {negated : Bool}
    (found : ofMembership scope operand items negated binding = .ok (condition, bound)) :
    AddsFor binding bound (operand.placeholders ++ Sql.placeholdersOf items)
      (scope.demands (.inList operand items negated)) := by
  obtain ⟨field, kind, values, group, required, set, listed, added, -⟩ := ofMembership_iff.1 found
  rw [Scope.placeholders_of_requireField required, List.nil_append, Scope.demands, required]
  rw [Binding.addMembership] at added
  split at added
  case h_2 => cases added
  rename_i pushed
  cases added
  obtain ⟨more, grown, count, indices, own⟩ :=
    demands_of_pushItems (kind?_of_setKind set).1 listed pushed
  exact ⟨indices, Binding.adds_pushGroup grown count true (own _ _ _)⟩

/-- A bound expression adds what its placeholders demand. -/
theorem addsFor_of_ofExpr {expr : Expr}
    (found : ofExpr scope expr binding = .ok (condition, bound)) :
    AddsFor binding bound expr.placeholders (scope.demands expr) := by
  fun_induction ofExpr scope expr binding generalizing condition bound with
  | case1 left right binding ihLeft ihRight | case2 left right binding ihLeft ihRight =>
      rcases Outcome.bind_eq_ok.1 found with ⟨⟨first, middle⟩, bindsLeft, found⟩
      rcases Outcome.bind_eq_ok.1 found with ⟨⟨second, last⟩, bindsRight, same⟩
      cases same
      exact (ihLeft bindsLeft).trans (ihRight middle bindsRight)
  | case3 op left right binding => exact addsFor_of_ofComparison found
  | case4 operand binding ih =>
      rcases Outcome.bind_eq_ok.1 found with ⟨⟨inner, last⟩, binds, same⟩
      cases same
      exact ih binds
  | case5 operand binding | case6 operand binding =>
      rcases Outcome.bind_eq_ok.1 found with ⟨test, made, same⟩
      cases same
      have none : operand.placeholders = [] := placeholders_of_ofNullTest made
      rw [Expr.placeholders, none]
      exact .refl binding
  | case7 operand items negated binding => exact addsFor_of_ofMembership found
  | case8 value binding =>
      cases found
      exact .refl binding
  | case9 name binding | case10 table column binding =>
      rcases Outcome.bind_eq_ok.1 found with ⟨test, made, same⟩
      cases same
      exact .refl binding
  | case11 => cases found

end Condition

end RecordQuery
