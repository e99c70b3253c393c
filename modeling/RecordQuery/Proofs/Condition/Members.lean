import Mathlib.Data.Set.Card
import RecordQuery.Proofs.Condition.Membership

/-!
# The members of the set of an IN list

The set of a group keeps a key for each value. Whole numbers and texts have keys of their own, so
the set of a group of such values has just its values as members, each once, and null is none of
them. Values of the other kinds have no keys that a set would keep.
-/

namespace RecordQuery

/-- Whether a set keeps the values of a kind. -/
def ScalarKind.hasMembers : ScalarKind → Bool
  | .int | .string | .time => true
  | .float | .bool => false

namespace MemberSet

/-- Whether a value is one of the members of a set. -/
def Holds : MemberSet → Value → Prop
  | .ints members, .number (.int n) => n.val ∈ members
  | .strings members, .string text => text ∈ members
  | _, _ => False

/-- A set has the values of a list except for null as members, and no others. So these are what it
contains among the values of their kind. -/
structure HoldsJust (set : MemberSet) (kind : ScalarKind) (values : List Value) : Prop where
  holds : ∀ value, set.Holds value ↔ value ∈ values ∧ value.isNull = false
  contains : ∀ value, kind.accepts value = true → (set.contains value = true ↔ value ∈ values)
  size : set.size = {value | value ∈ values ∧ value.isNull = false}.ncard

end MemberSet

theorem nodup_eraseDups {α : Type} [BEq α] [LawfulBEq α] (items : List α) :
    items.eraseDups.Nodup := by
  induction length : items.length using Nat.strongRecOn generalizing items with
  | ind count ih =>
      subst length
      cases items with
      | nil => simp
      | cons item rest =>
          rw [List.eraseDups_cons, List.nodup_cons, List.mem_eraseDups]
          have shorter := List.length_filter_le (fun other => !other == item) rest
          exact ⟨by simp, ih _ (Nat.lt_succ_of_le shorter) _ rfl⟩

/-- The values of a kind that sets keep are whole numbers or texts. -/
theorem ScalarKind.form_of_hasMembers {kind : ScalarKind} (kept : kind.hasMembers = true)
    {value : Value} (accepted : kind.accepts value = true) :
    (kind = .int ∧ ∃ n, value = .number (.int n)) ∨
      (kind ≠ .int ∧ ∃ text, value = .string text) := by
  cases kind with
  | int =>
      rcases cases_of_accepts (.inl rfl) accepted with ⟨-, whole⟩ | ⟨other, -⟩
      · exact .inl ⟨rfl, whole⟩
      · cases other
  | string =>
      rcases cases_of_accepts (.inr rfl) accepted with ⟨other, -⟩ | ⟨-, text⟩
      · cases other
      · exact .inr ⟨nofun, text⟩
  | time =>
      cases value <;> try cases accepted
      exact .inr ⟨nofun, _, rfl⟩
  | float | bool => cases kept

namespace MemberSet

variable {kind : ScalarKind} {values : List Value} {set : MemberSet}

/-- Whole numbers and texts are contained in a set just if they are members. -/
theorem contains_iff_holds {value : Value}
    (form : (∃ n, value = .number (.int n)) ∨ ∃ text, value = .string text) :
    set.contains value = true ↔ set.Holds value := by
  rcases form with ⟨n, rfl⟩ | ⟨text, rfl⟩ <;> cases set <;>
    simp [MemberSet.contains, Holds, memberKey?, Value.string?]

/-- A set that keeps the keys of its values has just these as members, provided that the key tells
the value and only null has none. -/
theorem holdsJust_of_key {β : Type} [DecidableEq β] (kept : kind.hasMembers = true)
    (key : Value → Option β)
    (tells : ∀ first second found, key first = some found → key second = some found →
      first = second)
    (null : key .null = none) (all : ∀ value ∈ values, value = .null ∨ (key value).isSome = true)
    (holds : ∀ value, set.Holds value ↔ ∃ found ∈ values.filterMap key, key value = some found)
    (size : set.size = (values.filterMap key).eraseDups.length) : set.HoldsJust kind values := by
  have held (value : Value) :
      (∃ found ∈ values.filterMap key, key value = some found) ↔
        value ∈ values ∧ value.isNull = false := by
    constructor
    · rintro ⟨found, member, same⟩
      rcases List.mem_filterMap.1 member with ⟨other, inside, known⟩
      cases tells _ _ _ same known
      refine ⟨inside, ?_⟩
      cases value <;> first | rfl | cases null.symm.trans same
    · rintro ⟨member, present⟩
      rcases all value member with rfl | known
      · cases present
      · rcases Option.isSome_iff_exists.1 known with ⟨found, same⟩
        exact ⟨found, List.mem_filterMap.2 ⟨value, member, same⟩, same⟩
  have keys : some '' {found | found ∈ (values.filterMap key).eraseDups} =
      key '' {value | value ∈ values ∧ value.isNull = false} := by
    ext found
    constructor
    · rintro ⟨found, member, rfl⟩
      have member : found ∈ values.filterMap key := List.mem_eraseDups.1 member
      rcases List.mem_filterMap.1 member with ⟨value, -, same⟩
      exact ⟨value, (held value).1 ⟨found, member, same⟩, same⟩
    · rintro ⟨value, inside, rfl⟩
      rcases (held value).2 inside with ⟨found, member, same⟩
      exact ⟨found, List.mem_eraseDups.2 member, same.symm⟩
  have apart : Set.InjOn key {value | value ∈ values ∧ value.isNull = false} := by
    intro first inside second _ same
    rcases (held first).2 inside with ⟨found, -, known⟩
    exact tells first second found known (same ▸ known)
  constructor
  · exact fun value => (holds value).trans (held value)
  · intro value accepted
    have form : (∃ n, value = .number (.int n)) ∨ ∃ text, value = .string text :=
      (ScalarKind.form_of_hasMembers kept accepted).imp And.right And.right
    rw [contains_iff_holds form, holds, held, ScalarKind.isNull_of_accepts accepted]
    exact and_iff_left rfl
  · rw [size, ← List.toFinset_card_of_nodup (nodup_eraseDups _), ← Set.ncard_coe_finset,
      List.coe_toFinset, ← Set.ncard_image_of_injective _ (Option.some_injective β), keys,
      apart.ncard_image]

/-- The whole number that a value is. -/
def whole? : Value → Option Int
  | .number (.int n) => some n.val
  | _ => none

theorem exists_of_whole? {value : Value} {k : Int} (whole : whole? value = some k) :
    ∃ n : WordInt, value = .number (.int n) ∧ n.val = k := by
  unfold whole? at whole
  split at whole
  · exact ⟨_, rfl, Option.some.inj whole⟩
  · cases whole

/-- The set of a group of whole numbers or texts has just these as members. -/
theorem holdsJust_build (kept : kind.hasMembers = true)
    (all : ∀ value ∈ values, value = .null ∨ kind.accepts value = true) :
    (build kind values).HoldsJust kind values := by
  by_cases int : kind = .int
  · subst int
    have known (value : Value) (member : value ∈ values) :
        value = .null ∨ ∃ n, value = .number (.int n) := by
      refine (all value member).imp_right fun accepted => ?_
      rcases ScalarKind.form_of_hasMembers kept accepted with ⟨-, whole⟩ | ⟨other, -⟩
      · exact whole
      · exact absurd rfl other
    have keys : values.filterMap memberKey? = values.filterMap whole? := by
      refine List.filterMap_congr fun value member => ?_
      rcases known value member with rfl | ⟨n, rfl⟩ <;> rfl
    refine holdsJust_of_key kept whole? ?_ rfl ?_ ?_ (congrArg (·.eraseDups.length) keys)
    · intro first second found one other
      rcases exists_of_whole? one with ⟨n, rfl, same⟩
      rcases exists_of_whole? other with ⟨m, rfl, same'⟩
      rw [WordInt.ext_iff.2 (same.trans same'.symm)]
    · intro value member
      exact (known value member).imp_right fun ⟨n, same⟩ => same ▸ rfl
    · intro value
      rw [build, keys]
      rcases value with _ | _ | ⟨n | x⟩ | _ | _ | _ <;> simp [Holds, whole?]
  · have built : build kind values = .strings (values.filterMap Value.string?).eraseDups := by
      cases kind <;> first | rfl | exact absurd rfl int
    rw [built]
    refine holdsJust_of_key kept Value.string? ?_ rfl ?_ ?_ rfl
    · rintro (_ | _ | _ | text | _ | _) (_ | _ | _ | text' | _ | _) found one other <;>
        cases one <;> cases other
      rfl
    · intro value member
      refine (all value member).imp_right fun accepted => ?_
      rcases ScalarKind.form_of_hasMembers kept accepted with ⟨same, -⟩ | ⟨-, text, rfl⟩
      · exact absurd same int
      · rfl
    · intro value
      cases value <;> simp [Holds, Value.string?]

/-- A set of values of another kind has no members. -/
theorem isEmpty_build (kept : kind.hasMembers = false)
    (all : ∀ value ∈ values, value = .null ∨ kind.accepts value = true) :
    (build kind values).isEmpty = true := by
  have built : build kind values = .strings (values.filterMap Value.string?).eraseDups := by
    cases kind <;> first | rfl | cases kept
  have none_ : values.filterMap Value.string? = [] := by
    refine List.filterMap_eq_nil_iff.2 fun value member => ?_
    rcases all value member with rfl | accepted
    · rfl
    · cases kind <;> try cases kept
      all_goals cases value <;> first | rfl | cases accepted
  rw [built, none_]
  rfl

end MemberSet

end RecordQuery
