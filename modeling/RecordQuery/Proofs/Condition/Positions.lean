import RecordQuery.Proofs.Condition.Meaning

/-!
# Arguments by position

Binding an expression takes one argument for each of its placeholders, in the order of the text,
from the first one that the expressions before it have left. So the condition it gives tests a
record just as the expression does when each placeholder is given the argument at its place.
-/

namespace RecordQuery

open Sql (Expr CompareOp)

/-! ## Growing bindings -/

namespace Binding

/-- A binding that others are added to keeps its slots and groups in place. -/
structure StartOf (binding final : Binding) : Prop where
  slots : binding.slots <+: final.slots
  groups : binding.groups <+: final.groups
  placeholders : binding.placeholders ≤ final.placeholders

theorem StartOf.refl (binding : Binding) : binding.StartOf binding :=
  ⟨List.prefix_rfl, List.prefix_rfl, Nat.le_refl _⟩

theorem StartOf.trans {binding middle final : Binding} (first : binding.StartOf middle)
    (second : middle.StartOf final) : binding.StartOf final :=
  ⟨first.slots.trans second.slots, first.groups.trans second.groups,
    Nat.le_trans first.placeholders second.placeholders⟩

variable {binding filled final : Binding} {name : String} {kind : ScalarKind} {more : List Slot}
  {args : List Value} {arguments : Arguments}

theorem startOf_pushGroup (slots : filled.slots = binding.slots ++ more)
    (groups : filled.groups = binding.groups)
    (placeholders : binding.placeholders ≤ filled.placeholders) (membership : Bool) :
    binding.StartOf (filled.pushGroup name kind binding.slots.length membership) where
  placeholders := placeholders
  slots := slots ▸ List.prefix_append _ _
  groups := by
    rw [pushGroup, groups]
    exact List.prefix_append _ _

/-- The last group of a binding keeps its slots when more are added, so what it leaves in the
arguments of a run is told by them. -/
theorem expanded_of_pushGroup (slots : filled.slots = binding.slots ++ more)
    (groups : filled.groups = binding.groups) {membership : Bool}
    (start : (filled.pushGroup name kind binding.slots.length membership).StartOf final)
    (ordered : final.Ordered) (expanded : final.expand args = .ok arguments) :
    let group : Group := ⟨name, kind, binding.slots.length, filled.slots.length, membership⟩
    ∃ found, more.mapM (fill args group) = .ok found ∧
      (∀ offset value, found[offset]? = some value →
        arguments.value (binding.slots.length + offset) = value) ∧
      arguments.set? binding.groups.length =
        if membership then some (.build kind found) else none := by
  intro group
  rcases start.slots with ⟨slotsBehind, finalSlots⟩
  rcases start.groups with ⟨groupsBehind, finalGroups⟩
  have here : final.groups[binding.groups.length]? = some group := by
    rw [← finalGroups, pushGroup, groups, List.append_assoc, List.getElem?_append_right (Nat.le_refl _),
      Nat.sub_self]
    rfl
  have own : final.slotsOf group = more := by
    rw [slotsOf, ← finalSlots]
    change ((filled.slots ++ slotsBehind).take filled.slots.length).drop binding.slots.length = more
    rw [List.take_left' rfl, slots, List.drop_left' rfl]
  rcases (expand_eq_ok ordered expanded).2 _ group here with ⟨found, made, values, set⟩
  rw [own] at made
  exact ⟨found, made, values, set⟩

theorem startOf_addPlaceholder (binding : Binding) (name : String) (kind : ScalarKind) :
    binding.StartOf (binding.addPlaceholder name kind).2 := by
  have slots : binding.pushPlaceholder.slots =
      binding.slots ++ [⟨binding.slots.length, .placeholder binding.placeholders⟩] := rfl
  exact startOf_pushGroup slots rfl (Nat.le_succ _) false

/-- The slot of a placeholder holds the argument at its place, as one of the kind that it is
compared as. -/
theorem value_of_addPlaceholder (start : (binding.addPlaceholder name kind).2.StartOf final)
    (ordered : final.Ordered) (expanded : final.expand args = .ok arguments) :
    coerce name kind (args.getD binding.placeholders .null) =
      .ok (arguments.value (binding.addPlaceholder name kind).1) := by
  have slots : binding.pushPlaceholder.slots =
      binding.slots ++ [⟨binding.slots.length, .placeholder binding.placeholders⟩] := rfl
  have pushed :
      (binding.pushPlaceholder.pushGroup name kind binding.slots.length false).StartOf final := start
  obtain ⟨found, made, values, -⟩ := expanded_of_pushGroup slots rfl pushed ordered expanded
  cases Outcome.mapM_eq_ok.1 made with
  | cons filled others =>
      cases others
      exact filled.trans (congrArg Except.ok (values 0 _ rfl).symm)

end Binding

/-- An argument at a place, and those behind it. -/
theorem given_cons {args : List Value} {place : Nat} {value : Value} {rest : List Value}
    (given : value :: rest <+: args.drop place) :
    args.getD place .null = value ∧ rest <+: args.drop (place + 1) := by
  rcases given with ⟨behind, same⟩
  have here : args[place]? = some value := by
    rw [← Nat.add_zero place, ← List.getElem?_drop, ← same]
    rfl
  refine ⟨by rw [List.getD_eq_getElem?_getD, here]; rfl, behind, ?_⟩
  rw [← List.drop_drop, ← same]
  rfl

/-- Places that follow those of the first values. -/
theorem given_append {args first second : List Value} {place : Nat}
    (given : first ++ second <+: args.drop place) :
    first <+: args.drop place ∧ second <+: args.drop (place + first.length) := by
  refine ⟨(List.prefix_append _ _).trans given, ?_⟩
  rcases given with ⟨behind, same⟩
  refine ⟨behind, ?_⟩
  rw [← List.drop_drop, ← same, List.append_assoc, List.drop_left' rfl]

/-! ## Items of lists -/

/-- An item of a list that is no placeholder is a literal. -/
theorem Condition.listItem_eq_ok {field : Accessor} {item : Expr} {value : Option Value}
    (found : listItem field item = .ok value) :
    (∃ index, item = .placeholder index ∧ value = none) ∨
      ∃ literal, item.literal? = some literal ∧ value = some literal ∧
        ∀ given kind, Scope.memberOf given field kind item = coerce field.name kind literal := by
  rw [listItem.eq_def] at found
  split at found
  · cases found
    exact .inl ⟨_, rfl, rfl⟩
  · cases found
  · rename_i notPlaceholder _
    split at found
    · rename_i literal known
      cases found
      refine .inr ⟨literal, known, rfl, fun given kind => ?_⟩
      rw [Scope.memberOf.eq_def]
      split
      · exact absurd rfl (notPlaceholder _)
      · simp only [known]
    · cases found

/-- The items of a list become slots in turn, and each placeholder among them takes the next
argument. -/
theorem Binding.pushItems_of_listItem {binding filled : Binding} {field : Accessor}
    {kind : ScalarKind} {items : List Expr} {values : List (Option Value)}
    (listed : items.mapM (Condition.listItem field) = .ok values)
    (pushed : pushItems binding field.name kind values = (.ok (), filled)) :
    ∃ more, filled.slots = binding.slots ++ more ∧ filled.groups = binding.groups ∧
      filled.placeholders = binding.placeholders + (Sql.placeholdersOf items).length ∧
      ∀ (args : List Value) (given : Nat → Value) (group : Group), group.name = field.name →
        group.kind = kind →
        (Sql.placeholdersOf items).map given <+: args.drop binding.placeholders →
        more.mapM (fill args group) = items.mapM (Scope.memberOf given field kind) := by
  induction items generalizing binding values with
  | nil =>
      cases Outcome.mapM_eq_ok.1 listed
      cases pushed
      exact ⟨[], (List.append_nil _).symm, rfl, rfl, fun _ _ _ _ _ _ => rfl⟩
  | cons item rest ih =>
      rcases List.forall₂_cons_left_iff.1 (Outcome.mapM_eq_ok.1 listed) with
        ⟨value, others, first, behind, rfl⟩
      have listedBehind := Outcome.mapM_eq_ok.2 behind
      rcases Condition.listItem_eq_ok first with
        ⟨index, rfl, rfl⟩ | ⟨literal, known, rfl, member⟩
      · obtain ⟨more, slots, groups, count, filled⟩ := ih listedBehind pushed
        refine ⟨⟨binding.slots.length, .placeholder binding.placeholders⟩ :: more, ?_, groups, ?_, ?_⟩
        · rw [slots, pushPlaceholder, List.append_assoc, List.singleton_append]
        · rw [count, pushPlaceholder, Sql.placeholdersOf, Expr.placeholders, List.length_append,
            List.length_singleton, Nat.add_assoc]
        · intro args given group name own placed
          rcases given_cons placed with ⟨here, behind⟩
          have first : fill args group ⟨binding.slots.length, .placeholder binding.placeholders⟩ =
              Scope.memberOf given field kind (.placeholder index) := by
            change coerce group.name group.kind (args.getD binding.placeholders .null) = _
            rw [here, name, own]
            rfl
          rw [List.mapM_cons, List.mapM_cons, filled args given group name own behind, first]
      · rw [pushItems] at pushed
        split at pushed
        · rename_i value converted
          obtain ⟨more, slots, groups, count, filled⟩ := ih listedBehind pushed
          have none : item.placeholders = [] := Expr.placeholders_of_literal? known
          refine ⟨⟨binding.slots.length, .literal value⟩ :: more, ?_, groups, ?_, ?_⟩
          · rw [slots, pushLiteral, List.append_assoc, List.singleton_append]
          · rw [count, pushLiteral, Sql.placeholdersOf, none, List.nil_append]
          · intro args given group name own placed
            rw [Sql.placeholdersOf, none, List.nil_append] at placed
            rw [List.mapM_cons, List.mapM_cons, filled args given group name own placed, fill,
              member, converted]
        · cases pushed

/-! ## Bound expressions -/

namespace Condition

/-- A condition tests records as `test` does when the placeholders with the given numbers take the
next arguments. -/
structure States (binding bound : Binding) (condition : Condition) (indices : List Nat)
    (test : (Nat → Value) → Value → QueryResult Bool) : Prop where
  start : binding.StartOf bound
  count : bound.placeholders = binding.placeholders + indices.length
  same : ∀ {final : Binding} {args : List Value} {arguments : Arguments}, bound.StartOf final →
    final.Ordered → final.expand args = .ok arguments → ∀ given : Nat → Value,
    indices.map given <+: args.drop binding.placeholders →
    ∀ record, condition.evaluate record arguments = test given record

variable {scope : Scope} {binding middle bound : Binding} {condition : Condition}
  {field : Accessor} {type : RecordType} {indices others : List Nat}
  {test : (Nat → Value) → Value → QueryResult Bool}

/-- A condition without slots and sets takes no arguments. -/
theorem states_of_typed_nil (typed : condition.Typed type [])
    (same : ∀ given record, condition.evaluate record .empty = test given record) :
    States binding binding condition [] test where
  start := .refl binding
  count := rfl
  same _ _ _ given _ record := (evaluate_of_typed_nil typed record _).trans (same given record)

/-- Two conditions in turn take the arguments of the first and then those of the second. -/
theorem States.join {left right : Condition} {first second joined : _}
    (leftStates : States binding middle left indices first)
    (rightStates : States middle bound right others second)
    (same : ∀ arguments given record, left.evaluate record arguments = first given record →
      right.evaluate record arguments = second given record →
      condition.evaluate record arguments = joined given record) :
    States binding bound condition (indices ++ others) joined where
  start := leftStates.start.trans rightStates.start
  count := by rw [rightStates.count, leftStates.count, List.length_append, Nat.add_assoc]
  same start ordered expanded given placed record := by
    rw [List.map_append] at placed
    rcases given_append placed with ⟨before, behind⟩
    rw [List.length_map, ← leftStates.count] at behind
    exact same _ given record
      (leftStates.same (rightStates.start.trans start) ordered expanded given before record)
      (rightStates.same start ordered expanded given behind record)

end Condition

namespace Condition

variable {scope : Scope} {binding bound : Binding} {condition : Condition} {field : Accessor}

/-- Asking for the presence of a field first changes nothing for a condition that is false without
it. -/
theorem evaluate_guardedBy {record : Value} {arguments : Arguments} (next : Value → QueryResult Bool)
    (same : condition.evaluate record arguments = (do
      match ← field.get record with
      | none => return false
      | some value => next value)) :
    (guardedBy field condition).evaluate record arguments = (do
      match ← field.get record with
      | none => return false
      | some value => next value) := by
  rw [guardedBy]
  split
  · rw [evaluate, same]
    cases field.get record with
    | error error => rfl
    | ok found => cases found <;> rfl
  · exact same

/-- A comparison with an operand that is no placeholder adds nothing to the binding, and does not
depend on it. -/
theorem ofOperand_of_not_placeholder {op : CompareOp} {operand : Expr}
    (other : ∀ index, operand ≠ .placeholder index)
    (found : ofOperand field op operand binding = .ok (condition, bound)) :
    bound = binding ∧ operand.placeholders = [] ∧
      ofOperand field op operand .empty = .ok (condition, .empty) := by
  rcases Outcome.bind_eq_ok.1 found with ⟨kind, known, found⟩
  split at found
  · cases op <;> cases found <;> exact ⟨rfl, rfl, by rw [ofOperand.eq_def, known]; rfl⟩
  · exact absurd rfl (other _)
  · rename_i notNull _
    split at found
    · cases found
    · rename_i value literal
      split at found
      · rename_i fits
        cases found
        refine ⟨rfl, Expr.placeholders_of_literal? literal, ?_⟩
        rw [ofOperand.eq_def, known, Outcome.ok_bind]
        split
        · exact absurd rfl notNull
        · exact absurd rfl (other _)
        · simp only [literal, fits, if_true]
          rfl
      · cases found

/-- A comparison with an operand takes an argument where that is a placeholder. -/
theorem states_of_ofOperand {op : CompareOp} {operand : Expr}
    (declared : (field.name, field.schema) ∈ scope.type.fields)
    (found : ofOperand field op operand binding = .ok (condition, bound)) :
    States binding bound condition operand.placeholders fun given record =>
      Scope.testOperand given record field op operand := by
  by_cases placeholder : ∃ index, operand = .placeholder index
  · rcases placeholder with ⟨index, rfl⟩
    rcases Outcome.bind_eq_ok.1 found with ⟨kind, known, same⟩
    cases same
    refine ⟨Binding.startOf_addPlaceholder binding field.name kind, rfl, ?_⟩
    intro final args arguments start ordered expanded given placed record
    have value : coerce field.name kind (given index) =
        .ok (arguments.value binding.slots.length) :=
      (given_cons placed).1 ▸ Binding.value_of_addPlaceholder start ordered expanded
    rw [Scope.testOperand, Scope.testGiven, known, Outcome.ok_bind, value, Outcome.ok_bind]
    refine evaluate_guardedBy _ ?_
    rw [evaluate]
    cases field.get record with
    | error error => rfl
    | ok found =>
        cases found with
        | none => rfl
        | some left =>
            simp only [Outcome.ok_bind, operandValue]
            cases (arguments.value binding.slots.length).isNull <;> rfl
  · have other (index : Nat) : operand ≠ .placeholder index := fun same => placeholder ⟨index, same⟩
    rcases ofOperand_of_not_placeholder other found with ⟨rfl, none, alone⟩
    rw [none]
    refine states_of_typed_nil (ofOperand_eq_ok declared alone).2 fun given record => ?_
    rw [Scope.testOperand.eq_def]
    split
    · exact absurd rfl (other _)
    · rw [alone]
      rfl

/-- A comparison takes the arguments of the side that is no field. -/
theorem states_of_ofComparison {left right : Expr} {op : CompareOp}
    (found : ofComparison scope left op right binding = .ok (condition, bound)) :
    States binding bound condition (left.placeholders ++ right.placeholders) fun given record =>
      scope.testComparison given record left op right := by
  rcases Outcome.bind_eq_ok.1 found with ⟨leftField, readLeft, found⟩
  rcases Outcome.bind_eq_ok.1 found with ⟨rightField, readRight, found⟩
  simp only [Scope.testComparison, readLeft, readRight, Outcome.ok_bind]
  cases leftField with
  | some first =>
      rw [Scope.placeholders_of_field? readLeft, List.nil_append]
      have declared := Scope.declared_of_field? readLeft
      cases rightField with
      | some second =>
          rw [Scope.placeholders_of_field? readRight]
          rcases Outcome.bind_eq_ok.1 found with ⟨compared, made, same⟩
          cases same
          refine states_of_typed_nil
            (typed_of_ofFields declared (Scope.declared_of_field? readRight) made) ?_
          intro given record
          simp only [made]
          rfl
      | none => exact states_of_ofOperand declared found
  | none =>
      cases rightField with
      | some second =>
          rw [Scope.placeholders_of_field? readRight, List.append_nil]
          exact states_of_ofOperand (Scope.declared_of_field? readRight) found
      | none =>
          rcases Outcome.bind_eq_ok.1 found with ⟨compared, made, same⟩
          cases same
          rcases placeholders_of_ofLiterals made with ⟨noneLeft, noneRight⟩
          rw [noneLeft, noneRight]
          have typed : condition.Typed scope.type [] := typed_of_ofLiterals made
          refine states_of_typed_nil typed fun given record => ?_
          simp only [made]
          rfl

end Condition

namespace Condition

variable {scope : Scope} {binding bound : Binding} {condition : Condition} {expr : Expr}

/-- A test for membership in a set of known kind takes the arguments of the placeholders in its
list. -/
theorem states_of_addMembership {operand : Expr} {items : List Expr} {negated : Bool}
    {field : Accessor} {kind : ScalarKind} {values : List (Option Value)} {group : Nat}
    (required : scope.requireField operand = .ok field) (known : Scope.setKind field = .ok kind)
    (listed : items.mapM (listItem field) = .ok values)
    (added : binding.addMembership field.name kind values = (.ok group, bound)) :
    States binding bound (guardedBy field (.member field group negated))
      (operand.placeholders ++ Sql.placeholdersOf items)
      fun given record => scope.testMembership given record operand items negated := by
  rw [Scope.placeholders_of_requireField required, List.nil_append]
  rw [Binding.addMembership] at added
  split at added
  · rename_i filled pushed
    cases added
    obtain ⟨more, slots, groups, count, made⟩ := Binding.pushItems_of_listItem listed pushed
    have grows := Nat.le_add_right binding.placeholders (Sql.placeholdersOf items).length
    refine ⟨Binding.startOf_pushGroup slots groups (count ▸ grows) true, count, ?_⟩
    intro final args arguments start ordered expanded given placed record
    obtain ⟨found, filledAll, -, set⟩ :=
      Binding.expanded_of_pushGroup slots groups start ordered expanded
    rw [made args given _ rfl rfl placed] at filledAll
    rw [Scope.testMembership, required, Outcome.ok_bind, known, Outcome.ok_bind, filledAll,
      Outcome.ok_bind]
    refine evaluate_guardedBy _ ?_
    rw [evaluate]
    cases field.get record with
    | error error => rfl
    | ok found =>
        cases found with
        | none => rfl
        | some value =>
            simp only [Outcome.ok_bind, set]
            rfl
  · cases added

theorem states_of_ofMembership {operand : Expr} {items : List Expr} {negated : Bool}
    (found : ofMembership scope operand items negated binding = .ok (condition, bound)) :
    States binding bound condition (operand.placeholders ++ Sql.placeholdersOf items)
      fun given record => scope.testMembership given record operand items negated := by
  rcases Outcome.bind_eq_ok.1 found with ⟨field, required, found⟩
  dsimp only at found
  split at found
  case h_3 => cases found
  all_goals
    rename_i own
    rcases Outcome.bind_eq_ok.1 found with ⟨kind, same, found⟩
    have known : Scope.setKind field = .ok kind := by
      rw [Scope.setKind]
      simp only [own]
      exact same
    rcases Outcome.bind_eq_ok.1 found with ⟨values, listed, found⟩
    split at found
    · rename_i added
      cases found
      exact states_of_addMembership required known listed added
    · cases found

/-- A bound expression takes as many arguments as it has placeholders, and with these the
condition tests records just as the expression does. -/
theorem states_of_ofExpr (found : ofExpr scope expr binding = .ok (condition, bound)) :
    States binding bound condition expr.placeholders fun given record =>
      scope.test given record expr := by
  fun_induction ofExpr scope expr binding generalizing condition bound with
  | case1 left right binding ihLeft ihRight =>
      rcases Outcome.bind_eq_ok.1 found with ⟨⟨first, middle⟩, bindsLeft, found⟩
      rcases Outcome.bind_eq_ok.1 found with ⟨⟨second, last⟩, bindsRight, same⟩
      cases same
      refine (ihLeft bindsLeft).join (ihRight middle bindsRight) fun arguments given record => ?_
      intro testsLeft testsRight
      rw [evaluate, Scope.test, testsLeft, testsRight]
  | case2 left right binding ihLeft ihRight =>
      rcases Outcome.bind_eq_ok.1 found with ⟨⟨first, middle⟩, bindsLeft, found⟩
      rcases Outcome.bind_eq_ok.1 found with ⟨⟨second, last⟩, bindsRight, same⟩
      cases same
      refine (ihLeft bindsLeft).join (ihRight middle bindsRight) fun arguments given record => ?_
      intro testsLeft testsRight
      rw [evaluate, Scope.test, testsLeft, testsRight]
  | case3 op left right binding => exact states_of_ofComparison found
  | case4 operand binding ih =>
      rcases Outcome.bind_eq_ok.1 found with ⟨⟨inner, last⟩, binds, same⟩
      cases same
      have states := ih binds
      refine ⟨states.start, states.count, ?_⟩
      intro final args arguments start ordered expanded given placed record
      rw [evaluate, Scope.test, states.same start ordered expanded given placed record]
  | case5 operand binding | case6 operand binding =>
      rcases Outcome.bind_eq_ok.1 found with ⟨test, made, same⟩
      cases same
      have none : operand.placeholders = [] := placeholders_of_ofNullTest made
      rw [Expr.placeholders, none]
      have typed : condition.Typed scope.type [] := typed_of_ofNullTest made
      refine states_of_typed_nil typed fun given record => ?_
      rw [Scope.test, made]
      rfl
  | case7 operand items negated binding => exact states_of_ofMembership found
  | case8 value binding =>
      cases found
      have typed : (literal value).Typed scope.type [] := .literal value
      exact states_of_typed_nil typed fun given record => rfl
  | case9 name binding | case10 table column binding =>
      rcases Outcome.bind_eq_ok.1 found with ⟨test, made, same⟩
      cases same
      have typed : condition.Typed scope.type [] := typed_of_ofField made
      refine states_of_typed_nil typed fun given record => ?_
      rw [Scope.test, made]
      rfl
  | case11 => cases found

end Condition

end RecordQuery
