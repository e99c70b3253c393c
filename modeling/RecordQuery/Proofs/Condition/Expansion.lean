import RecordQuery.Proofs.Condition.Slots

/-!
# Expanding a binding

The groups are expanded in order. Each of them writes its own slots and leaves those of
the groups before it alone, so at the end every slot holds what its own group made of its
content.
-/

namespace RecordQuery

/-- Arguments hold null or a value of the right kind in every slot of some groups, and a
set for each of them that is an `IN` list. -/
structure Arguments.Fills (arguments : Arguments) (groups : List Group) : Prop where
  slot : ∀ group ∈ groups, ∀ slot, group.first ≤ slot → slot < group.last →
    (arguments.value slot).isNull = true ∨ group.kind.compares (arguments.value slot) = true
  set : ∀ index group, groups[index]? = some group → group.membership = true →
    ∃ set, arguments.set? index = some set

namespace Binding

variable {binding : Binding} {args : List Value} {before after : Arguments} {group : Group}

/-- Writing values at consecutive positions replaces that part of a list. -/
theorem foldl_set_zip (slots : List Slot) (found values : List Value) (first : Nat)
    (position : ∀ index (slot : Slot), slots[index]? = some slot → slot.position = first + index)
    (same : slots.length = found.length) (range : first + found.length ≤ values.length) :
    (slots.zip found).foldl (fun values (slot, value) => values.set slot.position value) values =
      values.take first ++ found ++ values.drop (first + found.length) := by
  induction slots generalizing found values first with
  | nil =>
      cases List.length_eq_zero_iff.1 same.symm
      simp
  | cons slot rest ih =>
      cases found with
      | nil => cases same
      | cons value others =>
          have here : slot.position = first := position 0 slot rfl
          simp only [List.length_cons] at same range
          rw [List.zip_cons_cons, List.foldl_cons]
          dsimp only
          rw [here, ih others (values.set first value) (first + 1)
              (fun index later found => by rw [position (index + 1) later found]; omega)
              (by omega) (by rw [List.length_set]; omega)]
          have front :
              (values.set first value).take (first + 1) = values.take first ++ [value] := by
            rw [List.take_add_one, List.take_set_of_le (Nat.le_refl _),
              List.getElem?_set_self (by omega)]
            rfl
          rw [front, List.drop_set_of_lt (by omega), List.length_cons, List.append_assoc,
            List.append_assoc, List.append_assoc, Nat.add_right_comm, Nat.add_assoc]
          rfl

theorem getElem?_slotsOf (index : Nat) : (binding.slotsOf group)[index]? =
    if group.first + index < group.last then binding.slots[group.first + index]? else none := by
  rw [slotsOf, List.getElem?_drop, List.getElem?_take]

theorem length_slotsOf (last : group.last ≤ binding.slots.length) :
    (binding.slotsOf group).length = group.last - group.first := by
  rw [slotsOf, List.length_drop, List.length_take, Nat.min_eq_left last]

/-- The slots of a group are written side by side. -/
theorem foldl_set_slotsOf {found : List Value}
    (position : ∀ index (slot : Slot), binding.slots[index]? = some slot → slot.position = index)
    (first : group.first ≤ group.last) (last : group.last ≤ binding.slots.length)
    (length : before.values.length = binding.slots.length)
    (same : (binding.slotsOf group).length = found.length) :
    ((binding.slotsOf group).zip found).foldl
        (fun values (slot, value) => values.set slot.position value) before.values =
      before.values.take group.first ++ found ++
        before.values.drop (group.first + found.length) := by
  have width : found.length = group.last - group.first := same ▸ length_slotsOf last
  refine foldl_set_zip _ _ _ group.first (fun index slot here => ?_) same (by omega)
  rw [getElem?_slotsOf] at here
  split at here
  · exact position _ slot here
  · cases here

/-- What a group leaves in the arguments of a run: its slots hold what they are filled with, and
its set, if it is an `IN` list, has these values as members. -/
def Expanded (binding : Binding) (args : List Value) (after : Arguments) (group : Group)
    (set : Option MemberSet) : Prop :=
  ∃ found, (binding.slotsOf group).mapM (fill args group) = .ok found ∧
    (∀ offset value, found[offset]? = some value →
      after.values[group.first + offset]? = some value) ∧
    set = if group.membership then some (.build group.kind found) else none

/-- A group writes what its slots hold, leaves all slots in front of it alone, and adds
its set. -/
theorem expandGroup_eq_ok
    (position : ∀ index (slot : Slot), binding.slots[index]? = some slot → slot.position = index)
    (first : group.first ≤ group.last) (last : group.last ≤ binding.slots.length)
    (length : before.values.length = binding.slots.length)
    (expanded : binding.expandGroup args before group = .ok after) :
    after.values.length = binding.slots.length ∧
    (∀ index, index < group.first → after.values[index]? = before.values[index]?) ∧
    ∃ set, after.sets = before.sets ++ [set] ∧ binding.Expanded args after group set := by
  rcases Outcome.bind_eq_ok.1 expanded with ⟨found, filled, same⟩
  cases same
  have each := Outcome.mapM_eq_ok.1 filled
  have slots := length_slotsOf last
  have width : found.length = group.last - group.first := each.length_eq ▸ slots
  have values := foldl_set_slotsOf position first last length each.length_eq
  refine ⟨?_, ?_, _, rfl, found, filled, ?_, rfl⟩
  · simp only [values, List.length_append, List.length_take, List.length_drop]
    omega
  · intro index front
    have short : index < (before.values.take group.first).length := by
      rw [List.length_take]
      omega
    simp only [values]
    rw [List.append_assoc, List.getElem?_append_left short, List.getElem?_take_of_lt front]
  · intro offset value here
    have inside : offset < found.length := (List.getElem?_eq_some_iff.1 here).1
    have front : (before.values.take group.first).length = group.first := by
      rw [List.length_take]
      omega
    simp only [values]
    rw [List.append_assoc, List.getElem?_append_right (by omega), front, Nat.add_sub_cancel_left,
      List.getElem?_append_left inside, here]

/-- What a group has written stays while later slots are written. -/
theorem Expanded.mono {later : Arguments} {set : Option MemberSet}
    (last : group.last ≤ binding.slots.length) (first : group.first ≤ group.last)
    (kept : ∀ index, index < group.last → later.values[index]? = after.values[index]?)
    (expanded : binding.Expanded args after group set) : binding.Expanded args later group set := by
  rcases expanded with ⟨found, filled, written, same⟩
  refine ⟨found, filled, fun offset value here => ?_, same⟩
  have inside : offset < found.length := (List.getElem?_eq_some_iff.1 here).1
  have width : (binding.slotsOf group).length = found.length :=
    (Outcome.mapM_eq_ok.1 filled).length_eq
  rw [length_slotsOf last] at width
  rw [kept _ (by omega), written offset value here]

/-- Groups expanded one after the other each leave what they leave alone. -/
theorem foldlM_expandGroup_eq_ok
    (position : ∀ index (slot : Slot), binding.slots[index]? = some slot → slot.position = index)
    {groups : List Group} {start stop : Nat} (covers : Covers start groups stop)
    (last : stop ≤ binding.slots.length) (length : before.values.length = binding.slots.length)
    (expanded : groups.foldlM (binding.expandGroup args) before = .ok after) :
    after.values.length = binding.slots.length ∧
    (∀ index, index < start → after.values[index]? = before.values[index]?) ∧
    ∃ sets, after.sets = before.sets ++ sets ∧
      List.Forall₂ (binding.Expanded args after) groups sets := by
  induction groups generalizing start before with
  | nil =>
      cases expanded
      exact ⟨length, fun _ _ => rfl, [], (List.append_nil _).symm, .nil⟩
  | cons group rest ih =>
      rcases covers with ⟨rfl, range, behind⟩
      rcases Outcome.bind_eq_ok.1 expanded with ⟨between, here, later⟩
      have inside : group.last ≤ binding.slots.length := Nat.le_trans (le_of_covers behind) last
      obtain ⟨length, front, set, sets, own⟩ := expandGroup_eq_ok position range inside length here
      rcases ih behind length later with ⟨length, kept, more, behindSets, each⟩
      refine ⟨length, ?_, set :: more, ?_, .cons (own.mono inside range kept) each⟩
      · intro index low
        rw [kept index (by omega), front index low]
      · rw [behindSets, sets, List.append_assoc, List.singleton_append]

/-- There is one argument for each placeholder of a run, every slot has a value, and every group leaves
what it leaves alone. -/
theorem expanded_of_expand {arguments : Arguments} (ordered : binding.Ordered)
    (expanded : binding.expand args = .ok arguments) : args.length = binding.placeholders ∧
      arguments.values.length = binding.slots.length ∧
      List.Forall₂ (binding.Expanded args arguments) binding.groups arguments.sets := by
  rw [expand] at expanded
  split at expanded
  · cases expanded
  rename_i count
  obtain ⟨length, -, sets, same, each⟩ :=
    foldlM_expandGroup_eq_ok ordered.position ordered.covers (Nat.le_refl _)
      List.length_replicate expanded
  rw [List.nil_append] at same
  exact ⟨not_ne_iff.1 count, length, same ▸ each⟩

/-- Each group of a run has its values and its set. -/
theorem expand_eq_ok {arguments : Arguments} (ordered : binding.Ordered)
    (expanded : binding.expand args = .ok arguments) : args.length = binding.placeholders ∧
      ∀ index group, binding.groups[index]? = some group →
        ∃ found, (binding.slotsOf group).mapM (fill args group) = .ok found ∧
          (∀ offset value, found[offset]? = some value →
            arguments.value (group.first + offset) = value) ∧
          arguments.set? index = if group.membership then some (.build group.kind found) else none := by
  rcases expanded_of_expand ordered expanded with ⟨count, -, each⟩
  refine ⟨count, fun index group here => ?_⟩
  rcases List.getElem?_eq_some_iff.1 here with ⟨inside, rfl⟩
  have inSets : index < arguments.sets.length := each.length_eq ▸ inside
  obtain ⟨found, filled, written, set⟩ :
      binding.Expanded args arguments binding.groups[index] arguments.sets[index] :=
    each.get inside inSets
  refine ⟨found, filled, fun offset value here => ?_, ?_⟩
  · rw [Arguments.value, List.getD_eq_getElem?_getD, written offset value here]
    rfl
  · rw [Arguments.set?, List.getElem?_eq_getElem inSets, set]
    rfl

/-- A slot cannot be filled only for an argument that cannot be a value of the kind that it is
compared as. -/
theorem fill_eq_error {slot : Slot} {error : QueryError}
    (failed : fill args group slot = .error error) :
    ∃ index value, slot.content = .placeholder index ∧ args[index]? = some value ∧
      coerce? group.kind value = none ∧
      error = .compile (.invalidArgument group.name value group.kind) := by
  rw [fill] at failed
  split at failed
  · cases failed
  · rename_i index content
    rw [coerce] at failed
    split at failed
    · cases failed
    · rename_i refused
      cases failed
      cases here : args[index]? with
      | none =>
          rw [List.getD_eq_getElem?_getD, here] at refused
          cases refused
      | some value =>
          rw [List.getD_eq_getElem?_getD, here] at refused ⊢
          exact ⟨index, value, content, here, refused, rfl⟩

/-- A group fails where one of its slots cannot be filled. -/
theorem expandGroup_eq_error {error : QueryError}
    (failed : binding.expandGroup args before group = .error error) :
    (binding.slotsOf group).mapM (fill args group) = .error error := by
  rw [expandGroup] at failed
  cases filled : (binding.slotsOf group).mapM (fill args group) with
  | ok found =>
      rw [filled] at failed
      cases failed
  | error other =>
      rw [filled] at failed
      cases failed
      rfl

/-- With one argument for each placeholder, a run fails only at an argument that cannot be a value
of the kind that it is compared as. -/
theorem expand_eq_error {error : QueryError} (count : args.length = binding.placeholders)
    (failed : binding.expand args = .error error) :
    ∃ group ∈ binding.groups, ∃ slot ∈ binding.slotsOf group, ∃ index value,
      slot.content = .placeholder index ∧ args[index]? = some value ∧
      coerce? group.kind value = none ∧
      error = .compile (.invalidArgument group.name value group.kind) := by
  rw [expand, if_neg (not_ne_iff.2 count)] at failed
  rcases Outcome.exists_of_foldlM_eq_error failed with ⟨group, member, before, failed⟩
  rcases Outcome.exists_of_mapM_eq_error (expandGroup_eq_error failed) with ⟨slot, own, failed⟩
  exact ⟨group, member, slot, own, fill_eq_error failed⟩

/-- What a slot is filled with has been converted to the kind of its group. -/
theorem exists_coerce?_of_fill (ordered : binding.Ordered) (member : group ∈ binding.groups)
    {slot : Slot} (own : slot ∈ binding.slotsOf group) {value : Value}
    (filled : fill args group slot = .ok value) :
    ∃ given, coerce? group.kind given = some value := by
  rw [fill] at filled
  split at filled
  · rename_i content
    cases filled
    exact ordered.literal group member slot own value content
  · exact ⟨_, coerce_eq_ok.1 filled⟩

/-- What a slot is filled with is null or a value of the kind of its group. -/
theorem compares_of_fill (ordered : binding.Ordered) (member : group ∈ binding.groups) {slot : Slot}
    (own : slot ∈ binding.slotsOf group) {value : Value}
    (filled : fill args group slot = .ok value) :
    value.isNull = true ∨ group.kind.compares value = true := by
  rcases exists_coerce?_of_fill ordered member own filled with ⟨given, converted⟩
  exact compares_of_coerce? converted

/-- The arguments of a run fill all groups of a binding in order. -/
theorem fills_of_expand {arguments : Arguments} (ordered : binding.Ordered)
    (expanded : binding.expand args = .ok arguments) : arguments.Fills binding.groups := by
  have each := (expand_eq_ok ordered expanded).2
  constructor
  · intro group member index low high
    rcases List.getElem?_of_mem member with ⟨number, here⟩
    rcases each number group here with ⟨found, filled, written, -⟩
    have paired := Outcome.mapM_eq_ok.1 filled
    have inSlots : index - group.first < (binding.slotsOf group).length := by
      rw [length_slotsOf (last_le_of_covers ordered.covers group member)]
      omega
    have inFound := paired.length_eq ▸ inSlots
    have same := written _ _ (List.getElem?_eq_getElem inFound)
    rw [Nat.add_sub_cancel' low] at same
    rw [same]
    exact compares_of_fill ordered member (List.getElem_mem inSlots) (paired.get inSlots inFound)
  · intro index group here membership
    rcases each index group here with ⟨found, -, -, set⟩
    rw [membership] at set
    exact ⟨_, set⟩

end Binding

end RecordQuery
