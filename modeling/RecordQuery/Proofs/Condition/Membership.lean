import RecordQuery.Proofs.Condition.Acceptance

/-!
# Membership and equality

A test for membership in a list of placeholders asks what a chain of equalities asks: whether the
field has one of the given values. The set keeps every whole number apart. A comparison of whole
numbers beyond the signed words is one of doubles, which does not, so the two part exactly where a
different whole number with the same nearest double is given and the number itself is not.
-/

namespace RecordQuery

open Sql (Expr CompareOp)

/-! ## The two expressions -/

namespace Sql.Expr

/-- `operand IN (?, ..., ?)` with the placeholders up to a last one. -/
def memberUpTo (operand : Expr) (last : Nat) : Expr :=
  .inList operand ((List.range (last + 1)).map .placeholder) false

/-- `operand = ? OR ... OR operand = ?` with the placeholders up to a last one. -/
def equalsUpTo (operand : Expr) : Nat → Expr
  | 0 => .binary (.compare .eq) operand (.placeholder 0)
  | last + 1 =>
      .binary .or (operand.equalsUpTo last)
        (.binary (.compare .eq) operand (.placeholder (last + 1)))

theorem placeholdersOf_map_placeholder (indices : List Nat) :
    Sql.placeholdersOf (indices.map .placeholder) = indices := by
  induction indices with
  | nil => rfl
  | cons index rest ih =>
      rw [List.map_cons, Sql.placeholdersOf, ih]
      rfl

variable {operand : Expr}

theorem placeholders_memberUpTo (plain : operand.placeholders = []) (last : Nat) :
    (operand.memberUpTo last).placeholders = List.range (last + 1) := by
  rw [memberUpTo, placeholders, plain, placeholdersOf_map_placeholder, List.nil_append]

theorem placeholders_equalsUpTo (plain : operand.placeholders = []) (last : Nat) :
    (operand.equalsUpTo last).placeholders = List.range (last + 1) := by
  induction last with
  | zero => rw [equalsUpTo, placeholders, plain]; rfl
  | succ last ih =>
      rw [equalsUpTo, placeholders, placeholders, ih, plain, @List.range_succ (last + 1)]
      rfl

end Sql.Expr

/-! ## Whole numbers and their doubles -/

/-- Two whole numbers that comparisons cannot tell apart: they differ, but one of them is beyond the
signed words and they have the same nearest double. -/
structure WordInt.Blurs (n m : WordInt) : Prop where
  different : n ≠ m
  beyond : n.signed? = none ∨ m.signed? = none
  rounded : n.toDouble.order m.toDouble = .eq

theorem WordInt.ext_iff {n m : WordInt} : n = m ↔ n.val = m.val := by
  rcases n with ⟨_, _, _⟩
  rcases m with ⟨_, _, _⟩
  rw [WordInt.mk.injEq]

theorem WordInt.toInt_of_signed? {n : WordInt} {word : Int64} (signed : n.signed? = some word) :
    word.toInt = n.val := by
  rw [signed?] at signed
  split at signed
  · rename_i small
    cases signed
    have lower := n.lower
    exact Int64.toInt_ofInt_of_le (by omega) (by omega)
  · cases signed

/-- Whole numbers compare equal when they are the same or are blurred. -/
theorem Number.order_int_eq_iff (n m : WordInt) :
    Number.order (.int n) (.int m) = .eq ↔ n = m ∨ n.Blurs m := by
  have ofDoubles (beyond : n.signed? = none ∨ m.signed? = none) :
      n.toDouble.order m.toDouble = .eq ↔ n = m ∨ n.Blurs m := by
    constructor
    · intro rounded
      by_cases same : n = m
      · exact .inl same
      · exact .inr ⟨same, beyond, rounded⟩
    · rintro (rfl | blurs)
      · simp [Double.order]
      · exact blurs.rounded
  simp only [order, signed?, toDouble]
  cases first : n.signed? with
  | none => exact ofDoubles (.inl first)
  | some a =>
      cases second : m.signed? with
      | none => exact ofDoubles (.inr second)
      | some b =>
          have apart : ¬ n.Blurs m := by
            intro blurs
            rcases blurs.beyond with beyond | beyond
            · cases first.symm.trans beyond
            · cases second.symm.trans beyond
          rw [or_iff_left apart]
          simp only [WordInt.toInt_of_signed? first, WordInt.toInt_of_signed? second]
          exact Int.compare_eq_eq.trans WordInt.ext_iff.symm

/-! ## Members of a set -/

/-- A conversion gives null or an instance of the kind. -/
theorem accepts_of_coerce? {kind : ScalarKind} {given value : Value}
    (converted : coerce? kind given = some value) :
    value = .null ∨ kind.accepts value = true := by
  rw [coerce?.eq_def] at converted
  split at converted
  case h_1 => cases converted; exact .inl rfl
  case h_6 | h_7 =>
      rcases Option.map_eq_some_iff.1 converted with ⟨number, -, rfl⟩
      exact .inr rfl
  case h_10 =>
      split at converted
      · rename_i named
        cases converted
        exact .inr named
      · cases converted
  case h_11 => cases converted
  all_goals
    cases converted
    exact .inr rfl

theorem ScalarKind.isNull_of_accepts {kind : ScalarKind} {value : Value}
    (accepted : kind.accepts value = true) : value.isNull = false := by
  cases value with
  | null => cases kind <;> cases accepted
  | _ => rfl

theorem compareValues_null (kind : ScalarKind) (value : Value) :
    compareValues kind value .null = none := by
  cases kind <;> cases value <;> rfl

/-- The values that a field of an integer or a text has: whole numbers, or texts. -/
theorem ScalarKind.cases_of_accepts {kind : ScalarKind} (own : kind = .int ∨ kind = .string)
    {value : Value} (accepted : kind.accepts value = true) :
    (kind = .int ∧ ∃ n, value = .number (.int n)) ∨ (kind = .string ∧ ∃ s, value = .string s) := by
  rcases own with rfl | rfl
  · cases value <;> try cases accepted
    rename_i number
    cases number with
    | int n => exact .inl ⟨rfl, n, rfl⟩
    | float x => cases accepted
  · cases value <;> try cases accepted
    exact .inr ⟨rfl, _, rfl⟩

/-- A set has the values that it was built of. -/
theorem MemberSet.contains_build {kind : ScalarKind} (own : kind = .int ∨ kind = .string)
    {members : List Value} (all : ∀ member ∈ members, member = .null ∨ kind.accepts member = true)
    {value : Value} (accepted : kind.accepts value = true) :
    (MemberSet.build kind members).contains value = true ↔ value ∈ members := by
  rcases ScalarKind.cases_of_accepts own accepted with ⟨rfl, n, rfl⟩ | ⟨rfl, s, rfl⟩
  · simp only [build, contains, memberKey?, Option.any_some, List.contains_iff_mem,
      List.mem_eraseDups, List.mem_filterMap]
    constructor
    · rintro ⟨member, inside, key⟩
      rcases all member inside with rfl | other
      · cases key
      · rcases ScalarKind.cases_of_accepts (.inl rfl) other with ⟨-, m, rfl⟩ | ⟨same, -⟩
        · have same : m = n := WordInt.ext_iff.2 (Option.some.inj key)
          exact same ▸ inside
        · cases same
    · intro inside
      exact ⟨_, inside, rfl⟩
  · simp only [build, contains, Value.string?, Option.any_some, List.contains_iff_mem,
      List.mem_eraseDups, List.mem_filterMap]
    constructor
    · rintro ⟨member, inside, key⟩
      cases member <;> cases key
      exact inside
    · intro inside
      exact ⟨_, inside, rfl⟩

/-! ## Compiling the two expressions -/

section Expressions

variable {scope : Scope} {operand : Expr} {field : Accessor} {kind : ScalarKind}

theorem Scope.field?_of_requireField (required : scope.requireField operand = .ok field) :
    scope.field? operand = .ok (some field) := by
  rcases Outcome.bind_eq_ok.1 required with ⟨known, read, found⟩
  cases known with
  | none => cases found
  | some known =>
      cases found
      exact read

namespace Condition

theorem ofExpr_memberUpTo (required : scope.requireField operand = .ok field)
    (known : field.schema.kind? = some kind) (own : kind = .int ∨ kind = .string) (last : Nat) :
    ∃ condition bound,
      ofExpr scope (operand.memberUpTo last) .empty = .ok (condition, bound) := by
  have set : Scope.setKind field = .ok kind := by
    rcases own with rfl | rfl <;> simp [Scope.setKind, known]
  have listed : ∀ item ∈ (List.range (last + 1)).map Expr.placeholder, Listed kind item := by
    intro item member
    rcases List.mem_map.1 member with ⟨index, -, rfl⟩
    exact .inl ⟨index, rfl⟩
  rcases ofMembership_isOk_iff.2 ⟨field, kind, required, set, listed⟩ with ⟨result, found⟩
  exact ⟨result.1, result.2, found⟩

theorem ofExpr_equalsUpTo (required : scope.requireField operand = .ok field)
    (known : field.schema.kind? = some kind) (last : Nat) :
    ∃ condition bound,
      ofExpr scope (operand.equalsUpTo last) .empty = .ok (condition, bound) := by
  have single (index : Nat) (binding : Binding) : ∃ condition bound,
      ofExpr scope (.binary (.compare .eq) operand (.placeholder index)) binding =
        .ok (condition, bound) := by
    rw [ofExpr, ofComparison, Scope.field?_of_requireField required]
    simp only [Outcome.ok_bind, Scope.field?_placeholder, ofOperand, comparableKind_eq_ok.2 known]
    exact ⟨_, _, rfl⟩
  induction last with
  | zero => exact single 0 .empty
  | succ last ih =>
      rcases ih with ⟨first, middle, made⟩
      rcases single (last + 1) middle with ⟨second, bound, made'⟩
      refine ⟨.or first second, bound, ?_⟩
      rw [Sql.Expr.equalsUpTo, ofExpr, made, Outcome.ok_bind]
      dsimp only
      rw [made']
      rfl

end Condition

/-! ## What the two expressions accept and say -/

namespace Scope

variable {given : Nat → Value} {last : Nat}

theorem accepts_memberUpTo (required : scope.requireField operand = .ok field)
    (known : field.schema.kind? = some kind) :
    scope.accepts given (operand.memberUpTo last) ↔
      ∀ index ∈ List.range (last + 1), (coerce? kind (given index)).isSome := by
  simp [Sql.Expr.memberUpTo, accepts, required, acceptsOperand, known]

theorem accepts_equalsUpTo (required : scope.requireField operand = .ok field)
    (known : field.schema.kind? = some kind) :
    scope.accepts given (operand.equalsUpTo last) ↔
      ∀ index ∈ List.range (last + 1), (coerce? kind (given index)).isSome := by
  have single (index : Nat) : scope.accepts given
      (.binary (.compare .eq) operand (.placeholder index)) ↔
        (coerce? kind (given index)).isSome := by
    simp [accepts, field?_of_requireField required, acceptsOperand, known]
  induction last with
  | zero =>
      rw [List.range_one, List.forall_mem_singleton]
      exact single 0
  | succ last ih =>
      rw [@List.range_succ (last + 1), List.forall_mem_append, List.forall_mem_singleton]
      exact and_congr ih (single (last + 1))

variable {record : Value} {found : Option Value}

/-- A membership holds of a field that has one of the given values. -/
theorem test_memberUpTo (required : scope.requireField operand = .ok field)
    (known : field.schema.kind? = some kind) (own : kind = .int ∨ kind = .string)
    (converts : ∀ index ∈ List.range (last + 1), (coerce? kind (given index)).isSome)
    (read : field.get record = .ok found)
    (accepted : ∀ value, found = some value → kind.accepts value = true) :
    ∃ answer, scope.test given record (operand.memberUpTo last) = .ok answer ∧
      (answer = true ↔ ∃ value, found = some value ∧
        ∃ argument ∈ (List.range (last + 1)).map given, coerce? kind argument = some value) := by
  have listed (indices : List Nat) (each : ∀ index ∈ indices, (coerce? kind (given index)).isSome) :
      (indices.map Expr.placeholder).mapM (memberOf given field kind) =
        .ok (indices.filterMap fun index => coerce? kind (given index)) := by
    induction indices with
    | nil => rfl
    | cons index rest ih =>
        rw [List.forall_mem_cons] at each
        rcases Option.isSome_iff_exists.1 each.1 with ⟨value, converted⟩
        rw [List.map_cons, List.mapM_cons, ih each.2, memberOf, coerce, converted,
          List.filterMap_cons, converted]
        rfl
  have set : setKind field = .ok kind := by
    rcases own with rfl | rfl <;> simp [setKind, known]
  rw [Sql.Expr.memberUpTo, test, testMembership, required, Outcome.ok_bind, set, Outcome.ok_bind,
    listed _ converts, Outcome.ok_bind, read, Outcome.ok_bind]
  cases found with
  | none => exact ⟨false, rfl, by simp⟩
  | some value =>
      have all : ∀ member ∈ (List.range (last + 1)).filterMap fun index => coerce? kind (given index),
          member = .null ∨ kind.accepts member = true := by
        intro member inside
        rcases List.mem_filterMap.1 inside with ⟨index, -, converted⟩
        exact accepts_of_coerce? converted
      refine ⟨_, rfl, ?_⟩
      rw [Bool.bne_false, MemberSet.contains_build own all (accepted value rfl), List.mem_filterMap]
      simp

/-- An equality holds of a field whose value compares equal to the given one. -/
theorem test_equals (required : scope.requireField operand = .ok field)
    (known : field.schema.kind? = some kind) {index : Nat}
    (converts : (coerce? kind (given index)).isSome) (read : field.get record = .ok found)
    (accepted : ∀ value, found = some value → kind.accepts value = true) :
    ∃ answer,
      scope.test given record (.binary (.compare .eq) operand (.placeholder index)) = .ok answer ∧
      (answer = true ↔ ∃ value, found = some value ∧ ∃ member,
        coerce? kind (given index) = some member ∧ compareValues kind value member = some .eq) := by
  rcases Option.isSome_iff_exists.1 converts with ⟨member, converted⟩
  rw [test, testComparison, field?_of_requireField required, field?_placeholder]
  simp only [Outcome.ok_bind, testOperand, testGiven, Condition.comparableKind_eq_ok.2 known, coerce,
    converted, read]
  cases found with
  | none => exact ⟨false, rfl, by simp⟩
  | some value =>
      have accepted := accepted value rfl
      rcases accepts_of_coerce? converted with rfl | other
      · exact ⟨false, rfl, by simp [compareValues_null]⟩
      · rcases compareValues_of_compares (ScalarKind.compares_of_accepts accepted)
          (ScalarKind.compares_of_accepts other) with ⟨order, compared⟩
        have present := ScalarKind.isNull_of_accepts other
        refine ⟨order == .eq, ?_, ?_⟩
        · simp only [present, compared]
          rfl
        · simp [compared]

/-- A chain of equalities holds of a field whose value compares equal to one of the given values. -/
theorem test_equalsUpTo (required : scope.requireField operand = .ok field)
    (known : field.schema.kind? = some kind)
    (converts : ∀ index ∈ List.range (last + 1), (coerce? kind (given index)).isSome)
    (read : field.get record = .ok found)
    (accepted : ∀ value, found = some value → kind.accepts value = true) :
    ∃ answer, scope.test given record (operand.equalsUpTo last) = .ok answer ∧
      (answer = true ↔ ∃ value, found = some value ∧
        ∃ argument ∈ (List.range (last + 1)).map given, ∃ member,
          coerce? kind argument = some member ∧ compareValues kind value member = some .eq) := by
  induction last with
  | zero =>
      rw [List.range_one, List.forall_mem_singleton] at converts
      rcases test_equals required known converts read accepted with ⟨answer, tested, holds⟩
      exact ⟨answer, tested, by simpa using holds⟩
  | succ last ih =>
      rw [@List.range_succ (last + 1), List.forall_mem_append, List.forall_mem_singleton]
        at converts
      rcases ih converts.1 with ⟨before, tested, holds⟩
      rcases test_equals required known converts.2 read accepted with ⟨here, tested', holds'⟩
      refine ⟨before || here, ?_, ?_⟩
      · rw [Sql.Expr.equalsUpTo, test, tested, Outcome.ok_bind, tested']
        cases before <;> rfl
      · rw [Bool.or_eq_true, holds, holds', @List.range_succ (last + 1)]
        simp only [List.map_append, List.map_singleton, List.mem_append, List.mem_singleton]
        constructor
        · rintro (⟨value, same, argument, inside, equal⟩ | ⟨value, same, equal⟩)
          · exact ⟨value, same, argument, .inl inside, equal⟩
          · exact ⟨value, same, _, .inr rfl, equal⟩
        · rintro ⟨value, same, argument, inside | rfl, equal⟩
          · exact .inl ⟨value, same, argument, inside, equal⟩
          · exact .inr ⟨value, same, equal⟩

end Scope

/-! ## Agreement -/

/-- A whole number is found among arguments by comparisons only: a number that it is blurred with is
one of them, and it is none itself. -/
def WordInt.BlurredAmong (n : WordInt) (args : List Value) : Prop :=
  (∃ argument ∈ args, ∃ m, coerce? .int argument = some (.number (.int m)) ∧ n.Blurs m) ∧
    ∀ argument ∈ args, coerce? .int argument ≠ some (.number (.int n))

/-- A value of an integer or a text compares equal to an instance of its kind when that is the value
itself, or a whole number that it is blurred with. -/
theorem compareValues_eq_iff (own : kind = .int ∨ kind = .string) {value member : Value}
    (accepted : kind.accepts value = true) (other : member = .null ∨ kind.accepts member = true) :
    compareValues kind value member = some .eq ↔
      member = value ∨
        ∃ n m, value = .number (.int n) ∧ member = .number (.int m) ∧ n.Blurs m := by
  rcases other with rfl | other
  · rw [compareValues_null]
    refine iff_of_false nofun ?_
    rintro (rfl | ⟨n, m, -, same, -⟩)
    · cases kind <;> cases accepted
    · cases same
  · rcases ScalarKind.cases_of_accepts own accepted with ⟨rfl, n, rfl⟩ | ⟨rfl, s, rfl⟩
    · rcases ScalarKind.cases_of_accepts own other with ⟨-, m, rfl⟩ | ⟨same, -⟩
      · rw [compareValues, Option.some_inj, Number.order_int_eq_iff]
        simp [eq_comm]
      · cases same
    · rcases ScalarKind.cases_of_accepts own other with ⟨same, -⟩ | ⟨-, t, rfl⟩
      · cases same
      · rw [compareValues, Option.some_inj, Std.compare_eq_iff_eq]
        simp [eq_comm]

/-- What the two expressions ask for is the same but for blurred whole numbers. -/
theorem asked_iff_not_blurredAmong (own : kind = .int ∨ kind = .string) {found : Option Value}
    (accepted : ∀ value, found = some value → kind.accepts value = true) (args : List Value) :
    ((∃ value, found = some value ∧ ∃ argument ∈ args, coerce? kind argument = some value) ↔
      ∃ value, found = some value ∧ ∃ argument ∈ args, ∃ member,
        coerce? kind argument = some member ∧ compareValues kind value member = some .eq) ↔
    ∀ n, found = some (.number (.int n)) → ¬ n.BlurredAmong args := by
  constructor
  · rintro agree n rfl ⟨⟨argument, given, m, converted, blurs⟩, apart⟩
    rcases own with rfl | rfl
    · have equal := (compareValues_eq_iff (.inl rfl) (accepted _ rfl) (accepts_of_coerce? converted)).2
        (.inr ⟨n, m, rfl, rfl, blurs⟩)
      rcases agree.2 ⟨_, rfl, argument, given, _, converted, equal⟩ with
        ⟨value, same, argument, given, converted⟩
      cases same
      exact apart argument given converted
    · cases accepted _ rfl
  · intro clear
    constructor
    · rintro ⟨value, rfl, argument, given, converted⟩
      refine ⟨value, rfl, argument, given, value, converted, ?_⟩
      exact (compareValues_eq_iff own (accepted _ rfl) (accepts_of_coerce? converted)).2 (.inl rfl)
    · rintro ⟨value, rfl, argument, given, member, converted, equal⟩
      refine ⟨value, rfl, ?_⟩
      rcases (compareValues_eq_iff own (accepted _ rfl) (accepts_of_coerce? converted)).1 equal with
        rfl | ⟨n, m, rfl, rfl, blurs⟩
      · exact ⟨argument, given, converted⟩
      · by_contra none
        rcases own with rfl | rfl
        · refine clear n rfl ⟨⟨argument, given, m, converted, blurs⟩, fun other inside same => ?_⟩
          exact none ⟨other, inside, same⟩
        · cases accepted _ rfl

namespace Condition

/-- `F IN (?, ..., ?)` and `F = ? OR ... OR F = ?`, on a field of an integer or a text, are both
compiled and take the same arguments. On every record whose field is absent, null or an instance of
its kind both have an answer, and it is the same unless the field holds a whole number that only
comparisons find among the arguments. -/
theorem membership_agrees_iff (required : scope.requireField operand = .ok field)
    (known : field.schema.kind? = some kind) (own : kind = .int ∨ kind = .string) (last : Nat) :
    ∃ membership bound equalities bound',
      ofExpr scope (operand.memberUpTo last) .empty = .ok (membership, bound) ∧
      ofExpr scope (operand.equalsUpTo last) .empty = .ok (equalities, bound') ∧
      ∀ args,
        ((∃ arguments, bound.expand args = .ok arguments) ↔
          ∃ arguments, bound'.expand args = .ok arguments) ∧
        ∀ arguments arguments', bound.expand args = .ok arguments →
          bound'.expand args = .ok arguments' →
          ∀ record found, field.get record = .ok found →
          (∀ value, found = some value → kind.accepts value = true) →
          ∃ answer answer', membership.evaluate record arguments = .ok answer ∧
            equalities.evaluate record arguments' = .ok answer' ∧
            (answer = answer' ↔
              ∀ n, found = some (.number (.int n)) → ¬ n.BlurredAmong args) := by
  obtain ⟨membership, bound, made⟩ := ofExpr_memberUpTo required known own last
  obtain ⟨equalities, bound', made'⟩ := ofExpr_equalsUpTo required known last
  have plain := Scope.placeholders_of_requireField required
  have numbered := Expr.placeholders_memberUpTo plain last
  have numbered' := Expr.placeholders_equalsUpTo plain last
  refine ⟨membership, bound, equalities, bound', made, made', fun args => ⟨?_, ?_⟩⟩
  · rw [expand_iff_accepts made (by simp [numbered]), expand_iff_accepts made' (by simp [numbered']),
      numbered, numbered', Scope.accepts_memberUpTo required known,
      Scope.accepts_equalsUpTo required known]
  · intro arguments arguments' expanded expanded' record found read accepted
    have accepts := (expand_iff_accepts made (by simp [numbered])).1 ⟨arguments, expanded⟩
    rw [numbered, List.length_range, Scope.accepts_memberUpTo required known] at accepts
    rcases accepts with ⟨count, converts⟩
    rcases Scope.test_memberUpTo required known own converts read accepted with
      ⟨answer, tested, holds⟩
    rcases Scope.test_equalsUpTo required known converts read accepted with
      ⟨answer', tested', holds'⟩
    rw [← count, map_range_getD] at holds holds'
    refine ⟨answer, answer', ?_, ?_, ?_⟩
    · rw [evaluate_eq_test made (by simp [numbered]) expanded, tested]
    · rw [evaluate_eq_test made' (by simp [numbered']) expanded', tested']
    · rw [Bool.eq_iff_iff, holds, holds', asked_iff_not_blurredAmong own accepted args]

/-! A record with one whole number. -/

def tally : Scope := ⟨⟨"Tally", [("Count", .optional (.scalar .int))]⟩, false, "Tally"⟩

def counted (n : WordInt) : Value := .object [("Count", .number (.int n))]

/-- The greatest signed word and the whole number behind it, which have the same nearest double. -/
def greatest : WordInt := ⟨9223372036854775807, by decide, by decide⟩

def pastGreatest : WordInt := ⟨9223372036854775808, by decide, by decide⟩

theorem membership_agrees_iff_tally :
    ∃ membership bound equalities bound' arguments arguments' answer,
      ofExpr tally (.memberUpTo (.column "Count") 1) .empty = .ok (membership, bound) ∧
      ofExpr tally (.equalsUpTo (.column "Count") 1) .empty = .ok (equalities, bound') ∧
      bound.expand [.ofInt64 3, .number (.int pastGreatest)] = .ok arguments ∧
      bound'.expand [.ofInt64 3, .number (.int pastGreatest)] = .ok arguments' ∧
      membership.evaluate (counted pastGreatest) arguments = .ok answer ∧
      equalities.evaluate (counted pastGreatest) arguments' = .ok answer := by
  obtain ⟨membership, bound, equalities, bound', made, made', agree⟩ :=
    @membership_agrees_iff tally (.column "Count") _ .int rfl rfl (.inl rfl) 1
  cases made
  cases made'
  obtain ⟨answer, answer', tested, tested', same⟩ :=
    (agree [.ofInt64 3, .number (.int pastGreatest)]).2 _ _ rfl rfl (counted pastGreatest)
      (some (.number (.int pastGreatest))) rfl (by rintro value ⟨⟩; rfl)
  have clear : ∀ n, some (Value.number (.int pastGreatest)) = some (.number (.int n)) →
      ¬ n.BlurredAmong [.ofInt64 3, .number (.int pastGreatest)] := by
    rintro n ⟨⟩ ⟨-, apart⟩
    exact apart (.number (.int pastGreatest)) (by simp) rfl
  exact ⟨_, _, _, _, _, _, answer, rfl, rfl, rfl, rfl, tested, same.2 clear ▸ tested'⟩

/-- The greatest signed word equals the number behind it but is no member of its set. -/
theorem membership_parts_greatest :
    ∃ membership bound equalities bound' arguments arguments',
      ofExpr tally (.memberUpTo (.column "Count") 0) .empty = .ok (membership, bound) ∧
      ofExpr tally (.equalsUpTo (.column "Count") 0) .empty = .ok (equalities, bound') ∧
      bound.expand [.number (.int pastGreatest)] = .ok arguments ∧
      bound'.expand [.number (.int pastGreatest)] = .ok arguments' ∧
      membership.evaluate (counted greatest) arguments = .ok false ∧
      equalities.evaluate (counted greatest) arguments' = .ok true := by
  have blurs : greatest.Blurs pastGreatest := ⟨by decide, .inr rfl, by decide +kernel⟩
  have equal := (Number.order_int_eq_iff greatest pastGreatest).2 (.inr blurs)
  refine ⟨_, _, _, _, _, _, rfl, rfl, rfl, rfl, rfl, ?_⟩
  change Except.ok (CompareOp.eq.holds (Number.order (.int greatest) (.int pastGreatest))) = .ok true
  rw [equal]
  rfl

end Condition

end Expressions

end RecordQuery
