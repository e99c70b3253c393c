import RecordQuery.Proofs.Condition.Members
import RecordQuery.Proofs.Condition.Requests

/-!
# The arguments of a run

A binding whose requests were all granted has every slot in one group and every placeholder number
at one slot. So its expansion reads each argument once, as a value of the kind of the group it is
for. It gives every slot its value and every `IN` list its set, or it fails with the first argument,
in the order of the slots, that cannot be a value of its kind.
-/

namespace RecordQuery

/-- The values of the slots of a group. -/
def Arguments.valuesOf (arguments : Arguments) (group : Group) : List Value :=
  (arguments.values.take group.last).drop group.first

namespace Binding

variable {binding bound : Binding} {args : List Value} {group : Group} {slot : Slot}

/-- The slot at a position belongs to a group. -/
structure Places (binding : Binding) (position : Nat) (group : Group) (slot : Slot) : Prop where
  member : group ∈ binding.groups
  low : group.first ≤ position
  high : position < group.last
  here : binding.slots[position]? = some slot

/-- Expanding with some arguments reads and writes nothing that is not there: groups are ranges of
the slots, slots stand among the slots, and the numbers of placeholders are those of arguments. -/
structure Readable (binding : Binding) (args : List Value) : Prop where
  range : ∀ group ∈ binding.groups, group.first ≤ group.last ∧ group.last ≤ binding.slots.length
  position : ∀ slot ∈ binding.slots, slot.position < binding.slots.length
  index : ∀ slot ∈ binding.slots, ∀ index, slot.content = .placeholder index → index < args.length

/-- Arguments of a run have a value for each slot, which its group makes of its content, and a set
for each `IN` list. The set has just the values of its group as members; it is empty where sets do
not keep values of the kind. -/
structure Resolves (binding : Binding) (args : List Value) (arguments : Arguments) : Prop where
  length : arguments.values.length = binding.slots.length
  value : ∀ position group slot, binding.Places position group slot →
    fill args group slot = .ok (arguments.value position)
  sets : arguments.sets.length = binding.groups.length
  single : ∀ index group, binding.groups[index]? = some group → group.membership = false →
    arguments.set? index = none
  set : ∀ index group, binding.groups[index]? = some group → group.membership = true →
    ∃ set, arguments.set? index = some set ∧
      if group.kind.hasMembers then set.HoldsJust group.kind (arguments.valuesOf group)
      else set.isEmpty = true

/-- The first argument, in the order of the slots, that cannot be a value of the kind it is
compared as is refused with an error. -/
def RefusesFirst (binding : Binding) (args : List Value) (error : QueryError) : Prop :=
  ∃ position group slot index given, binding.Places position group slot ∧
    slot.content = .placeholder index ∧ args[index]? = some given ∧
    coerce group.name group.kind given = .error error ∧
    ∀ earlier < position, ∀ other before, binding.Places earlier other before →
      ∃ value, fill args other before = .ok value

/-! ## One group for each slot -/

/-- Among groups that cover a range, each position in it belongs to one. -/
theorem existsUnique_of_covers {start stop position : Nat} {groups : List Group}
    (covers : Covers start groups stop) (first : start ≤ position) (last : position < stop) :
    ∃! group, group ∈ groups ∧ group.first ≤ position ∧ position < group.last := by
  induction groups generalizing start with
  | nil =>
      cases covers
      omega
  | cons group rest ih =>
      rcases covers with ⟨rfl, range, behind⟩
      rcases Nat.lt_or_ge position group.last with inside | beyond
      · refine ⟨group, ⟨List.mem_cons_self, first, inside⟩, ?_⟩
        rintro other ⟨member, low, -⟩
        rcases List.mem_cons.1 member with same | later
        · exact same
        · have := le_first_of_covers behind other later
          omega
      · rcases ih behind beyond with ⟨other, ⟨member, low, high⟩, only⟩
        refine ⟨other, ⟨List.mem_cons_of_mem _ member, low, high⟩, ?_⟩
        rintro another ⟨member, low, high⟩
        rcases List.mem_cons.1 member with rfl | later
        · omega
        · exact only another ⟨later, low, high⟩

/-- Each number below the number of placeholders is that of one slot. -/
theorem Regular.existsUnique_index (regular : binding.Regular) {index : Nat}
    (below : index < binding.placeholders) :
    ∃! position : Nat, ∃ slot : Slot, binding.slots[position]? = some slot ∧
      slot.content = .placeholder index := by
  have content_iff (slot : Slot) (number : Nat) :
      slot.content = .placeholder number ↔ slot.index? = some number := by
    rcases slot with ⟨position, content⟩
    cases content <;> simp [Slot.index?]
  have member : index ∈ binding.slots.filterMap Slot.index? := by
    rwa [regular.indices, List.mem_range]
  have distinct : (binding.slots.filterMap Slot.index?).Nodup :=
    regular.indices ▸ List.nodup_range
  rcases List.mem_filterMap.1 member with ⟨slot, inside, known⟩
  rcases List.getElem?_of_mem inside with ⟨position, here⟩
  refine ⟨position, ⟨slot, here, (content_iff slot index).2 known⟩, ?_⟩
  rintro other ⟨another, there, known'⟩
  rw [content_iff] at known'
  rw [List.Nodup, List.pairwise_filterMap, List.pairwise_iff_getElem] at distinct
  rcases List.getElem?_eq_some_iff.1 here with ⟨bound, rfl⟩
  rcases List.getElem?_eq_some_iff.1 there with ⟨bound', rfl⟩
  rcases Nat.lt_trichotomy other position with front | same | behind
  · exact absurd rfl (distinct other position bound' bound front index known' index known)
  · exact same
  · exact absurd rfl (distinct position other bound bound' behind index known index known')

theorem Regular.readable (regular : binding.Regular) (count : args.length = binding.placeholders) :
    binding.Readable args where
  range := regular.within
  position := by
    intro slot member
    rcases List.getElem?_of_mem member with ⟨index, here⟩
    rw [regular.position index slot here]
    exact (List.getElem?_eq_some_iff.1 here).1
  index := by
    intro slot member index content
    have known : slot.index? = some index := by rw [Slot.index?, content]
    have all : index ∈ binding.slots.filterMap Slot.index? :=
      List.mem_filterMap.2 ⟨slot, member, known⟩
    rwa [regular.indices, List.mem_range, ← count] at all

/-! ## Requests that are granted -/

theorem extends_of_perform {request : Request} {number : Nat}
    (granted : request.perform binding = (.ok number, bound)) : binding.Extends bound := by
  rcases perform_cases binding request with
    ⟨given, filled, more, -, made, added⟩ | ⟨error, filled, more, made, -⟩
  · cases made.symm.trans granted
    exact extends_pushGroup added.toGrown request.isMembership
  · cases made.symm.trans granted

/-- Granted requests keep a binding in order. -/
theorem ordered_performAll (requests : List Request) (ordered : binding.Ordered)
    (granted : ∀ outcome ∈ (binding.performAll requests).1, outcome.isOk = true) :
    (binding.performAll requests).2.Ordered := by
  induction requests generalizing binding with
  | nil => exact ordered
  | cons request rest ih =>
      rw [performAll, List.forall_mem_cons] at granted
      rcases Outcome.exists_of_isOk granted.1 with ⟨number, made⟩
      have extended := extends_of_perform (Prod.ext made rfl)
      exact ih (extended.ordered ordered) granted.2

/-! ## What an expansion gives -/

theorem Places.getElem?_slotsOf {position : Nat} (places : binding.Places position group slot) :
    (binding.slotsOf group)[position - group.first]? = some slot := by
  have back : group.first + (position - group.first) = position := by
    have := places.low
    omega
  rw [Binding.getElem?_slotsOf, back, if_pos places.high, places.here]

/-- The values of a group are those that it has written. -/
theorem valuesOf_eq {arguments : Arguments} {found : List Value}
    (within : group.last ≤ arguments.values.length)
    (width : found.length = group.last - group.first)
    (written : ∀ offset value, found[offset]? = some value →
      arguments.value (group.first + offset) = value) : arguments.valuesOf group = found := by
  refine List.ext_getElem? fun offset => ?_
  rw [Arguments.valuesOf, List.getElem?_drop, List.getElem?_take]
  split
  · have inside : offset < found.length := by omega
    have own := written offset _ (List.getElem?_eq_getElem inside)
    rw [Arguments.value, List.getD_eq_getElem?_getD] at own
    rw [List.getElem?_eq_getElem inside, ← own,
      List.getElem?_eq_getElem (by omega : group.first + offset < arguments.values.length)]
    rfl
  · rw [List.getElem?_eq_none (by omega)]

/-- An expansion that succeeds gives every slot its value and every `IN` list its set. -/
theorem resolves_of_expand {arguments : Arguments} (ordered : binding.Ordered)
    (expanded : binding.expand args = .ok arguments) : binding.Resolves args arguments := by
  rcases expanded_of_expand ordered expanded with ⟨-, length, each⟩
  have groups := (expand_eq_ok ordered expanded).2
  constructor
  · exact length
  · intro position group slot places
    rcases List.getElem?_of_mem places.member with ⟨index, known⟩
    rcases groups index group known with ⟨found, filled, written, -⟩
    rcases List.getElem?_eq_some_iff.1 places.getElem?_slotsOf with ⟨inside, own⟩
    have paired := Outcome.mapM_eq_ok.1 filled
    have inFound : position - group.first < found.length := paired.length_eq ▸ inside
    have made : fill args group (binding.slotsOf group)[position - group.first] =
        .ok found[position - group.first] := paired.get inside inFound
    have value := written _ _ (List.getElem?_eq_getElem inFound)
    rw [Nat.add_sub_cancel' places.low] at value
    rw [value, ← own, made]
  · exact each.length_eq.symm
  · intro index group here single
    rcases groups index group here with ⟨found, -, -, set⟩
    rw [set, single]
    rfl
  · intro index group here membership
    rcases groups index group here with ⟨found, filled, written, set⟩
    have member : group ∈ binding.groups := List.mem_of_getElem? here
    have within := last_le_of_covers ordered.covers group member
    have paired := Outcome.mapM_eq_ok.1 filled
    have width : found.length = group.last - group.first := by
      rw [← paired.length_eq, length_slotsOf within]
    have all : ∀ value ∈ found, value = .null ∨ group.kind.accepts value = true := by
      intro value inside
      rcases Outcome.exists_item_of_mem paired inside with ⟨slot, own, made⟩
      rcases exists_coerce?_of_fill ordered member own made with ⟨given, converted⟩
      exact accepts_of_coerce? converted
    rw [membership, if_pos rfl] at set
    refine ⟨_, set, ?_⟩
    rw [valuesOf_eq (length ▸ within) width written]
    cases kept : group.kind.hasMembers with
    | true => exact MemberSet.holdsJust_build kept all
    | false => exact MemberSet.isEmpty_build kept all

/-- With one argument for each placeholder, an expansion that fails does so for the first argument
that is refused. -/
theorem refusesFirst_of_expand {error : QueryError} (ordered : binding.Ordered)
    (count : args.length = binding.placeholders) (failed : binding.expand args = .error error) :
    binding.RefusesFirst args error := by
  rw [expand, if_neg (not_ne_iff.2 count)] at failed
  obtain ⟨front, group, behind, before, groups, failed, fine⟩ :=
    Outcome.exists_first_of_foldlM_eq_error failed
  obtain ⟨passed, slot, rest, slots, failed, filled⟩ :=
    Outcome.exists_first_of_mapM_eq_error (expandGroup_eq_error failed)
  obtain ⟨index, given, content, read, refused, rfl⟩ := fill_eq_error failed
  have own : (binding.slotsOf group)[passed.length]? = some slot := by rw [slots]; simp
  have covers := groups ▸ ordered.covers
  rcases covers_append_iff.1 covers with ⟨middle, -, rfl, range, later⟩
  have places : binding.Places (group.first + passed.length) group slot := by
    rw [Binding.getElem?_slotsOf] at own
    split at own
    · exact ⟨by simp [groups], Nat.le_add_right _ _, ‹_›, own⟩
    · cases own
  refine ⟨_, group, slot, index, given, places, content, read, by rw [coerce, refused], ?_⟩
  intro earlier front_ other another taken
  have inSlots := taken.getElem?_slotsOf
  have member := taken.member
  rw [groups, List.mem_append, List.mem_cons] at member
  rcases member with inFront | rfl | inBehind
  · -- A group in front of the one that fails has been expanded.
    rcases fine other inFront with ⟨start, stop, made⟩
    rcases Outcome.bind_eq_ok.1 made with ⟨found, each, -⟩
    rcases Outcome.exists_result_of_mem (Outcome.mapM_eq_ok.1 each)
      (List.mem_of_getElem? inSlots) with ⟨value, -, made⟩
    exact ⟨value, made⟩
  · -- In the group itself, the slot stands in front of the one that fails.
    have short : earlier - other.first < passed.length := by
      have := taken.low
      omega
    rw [slots, List.getElem?_append_left short] at inSlots
    exact filled another (List.mem_of_getElem? inSlots)
  · have := le_first_of_covers later other inBehind
    have := taken.low
    have := places.high
    omega

/-- Whatever requests have been granted, the groups of the binding divide its slots among them, and
its placeholders are numbered in the order of the slots. Expanding it asks for as many arguments,
reads each of them once, and gives what the slots and `IN` lists make of them or refuses the first
that cannot be a value of its kind. -/
theorem expand_of_granted (requests : List Request)
    (granted : ∀ outcome ∈ (empty.performAll requests).1, outcome.isOk = true) :
    let binding := (empty.performAll requests).2
    binding.Regular ∧ Covers 0 binding.groups binding.slots.length ∧
    (∀ position < binding.slots.length,
      ∃! group, group ∈ binding.groups ∧ group.first ≤ position ∧ position < group.last) ∧
    ∀ args : List Value,
      (args.length ≠ binding.placeholders → binding.expand args =
        .error (.compile (.argumentCount binding.placeholders args.length))) ∧
      (args.length = binding.placeholders →
        binding.Readable args ∧
        (∀ index < args.length, ∃! position : Nat, ∃ slot : Slot,
          binding.slots[position]? = some slot ∧ slot.content = .placeholder index) ∧
        match binding.expand args with
        | .ok arguments => binding.Resolves args arguments
        | .error error => binding.RefusesFirst args error) := by
  intro binding
  have regular : binding.Regular := regular_empty.performAll requests
  have ordered : binding.Ordered := ordered_performAll requests ordered_empty granted
  refine ⟨regular, ordered.covers, fun position inside =>
    existsUnique_of_covers ordered.covers (Nat.zero_le _) inside, fun args => ⟨?_, ?_⟩⟩
  · intro other
    rw [expand, if_pos other]
  · intro count
    refine ⟨regular.readable count, fun index below => ?_, ?_⟩
    · exact regular.existsUnique_index (count ▸ below)
    · cases expanded : binding.expand args with
      | ok arguments => exact resolves_of_expand ordered expanded
      | error error => exact refusesFirst_of_expand ordered count expanded

theorem resolves_name_and_ids :
    let requests : List Request :=
      [.placeholder "Name" .string, .membership "ID" .int [none, some (.ofInt64 7), some .null]]
    let binding := (empty.performAll requests).2
    (∀ outcome ∈ (empty.performAll requests).1, outcome.isOk = true) ∧
      ∃ arguments, binding.expand [.string "Ann", .string "12"] = .ok arguments ∧
        binding.Resolves [.string "Ann", .string "12"] arguments := by
  intro requests binding
  have granted : ∀ outcome ∈ (empty.performAll requests).1, outcome.isOk = true := by decide
  have resolved := ((expand_of_granted requests granted).2.2.2 [.string "Ann", .string "12"]).2 rfl
  refine ⟨granted, _, rfl, ?_⟩
  exact resolved.2.2

/-- A list of flags gets a set without members. -/
theorem flags_not_members :
    let request := Request.membership "Open" .bool [some (.bool true)]
    let binding := (request.perform empty).2
    (request.perform empty).1 = .ok 0 ∧ ∃ arguments set, binding.expand [] = .ok arguments ∧
      arguments.set? 0 = some set ∧ arguments.values = [.bool true] ∧ set.isEmpty = true ∧
      ¬ set.HoldsJust .bool arguments.values := by
  refine ⟨rfl, _, _, rfl, rfl, rfl, rfl, fun just => ?_⟩
  exact (just.holds (.bool true)).2 ⟨List.mem_singleton.2 rfl, rfl⟩

end Binding

end RecordQuery
