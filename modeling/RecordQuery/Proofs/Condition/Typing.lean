import RecordQuery.Proofs.Condition.Expansion
import RecordQuery.Proofs.Schema.Conforming
import RecordQuery.Condition.OfExpr

/-!
# Typed conditions

Binding an expression checks that fields are declared, that the sides of a comparison are
of one kind, and that slots and groups are there. A condition that was bound so never
fails on a record whose scalar fields hold instances of their kinds, whatever arguments
its binding has been expanded with.
-/

namespace RecordQuery

/-- Each field with a scalar kind is absent, null, or an instance of the kind. -/
def RecordType.Admits (type : RecordType) (given : Fields) : Prop :=
  ∀ field ∈ type.fields, ∀ kind, field.2.kind? = some kind → ∀ value,
    given.get? field.1 = some value → value.isNull = true ∨ kind.accepts value = true

/-- Each field with a scalar kind is absent, null, or a value that comparisons of the kind can
order. That is all that conditions ask of a record. -/
def RecordType.Orders (type : RecordType) (given : Fields) : Prop :=
  ∀ field ∈ type.fields, ∀ kind, field.2.kind? = some kind → ∀ value,
    given.get? field.1 = some value → value.isNull = true ∨ kind.compares value = true

theorem RecordType.Admits.orders {type : RecordType} {given : Fields}
    (admits : type.Admits given) : type.Orders given := fun field member kind known value found =>
  (admits field member kind known value found).imp_right ScalarKind.compares_of_accepts

theorem RecordType.admits_of_conforms {type : RecordType} {given : Fields}
    (conforms : type.schema.Conforms (.object given)) : type.Admits given := by
  intro field member kind known value found
  cases conforms with
  | record each =>
      cases present : value.isNull with
      | true => exact .inl rfl
      | false => exact .inr ((each field member value found).accepts_of_kind? known present)

/-- A declared field whose values comparisons of a kind can order. Any number may be
compared as a double. -/
structure RecordType.Compares (type : RecordType) (field : Accessor) (kind : ScalarKind) :
    Prop where
  declared : (field.name, field.schema) ∈ type.fields
  own : ∃ own, field.schema.kind? = some own ∧ (own = kind ∨ own.isNumeric = true ∧ kind = .float)

/-- The right-hand side of a comparison of a kind. -/
inductive Operand.Typed (type : RecordType) (groups : List Group) (kind : ScalarKind) :
    Operand → Prop where
  | field {field : Accessor} (compares : type.Compares field kind) :
      Typed type groups kind (.field field)
  | constant {value : Value} (compares : kind.compares value = true) :
      Typed type groups kind (.constant value)
  | slot {slot : Nat} {group : Group} (member : group ∈ groups) (first : group.first ≤ slot)
      (last : slot < group.last) (same : group.kind = kind) : Typed type groups kind (.slot slot)

/-- A condition on records of a type, with slots and sets of some groups. -/
inductive Condition.Typed (type : RecordType) (groups : List Group) : Condition → Prop where
  | literal (value : Bool) : Typed type groups (.literal value)
  | and {left right : Condition} (first : Typed type groups left)
      (second : Typed type groups right) :
      Typed type groups (.and left right)
  | or {left right : Condition} (first : Typed type groups left)
      (second : Typed type groups right) :
      Typed type groups (.or left right)
  | not {operand : Condition} (typed : Typed type groups operand) : Typed type groups (.not operand)
  | isNull {field : Accessor} (declared : (field.name, field.schema) ∈ type.fields)
      (negated : Bool) : Typed type groups (.isNull field negated)
  | guarded {field : Accessor} {condition : Condition}
      (declared : (field.name, field.schema) ∈ type.fields) (typed : Typed type groups condition) :
      Typed type groups (.guarded field condition)
  | compare {field : Accessor} {right : Operand} {kind : ScalarKind} (op : Sql.CompareOp)
      (left : type.Compares field kind) (typed : right.Typed type groups kind) :
      Typed type groups (.compare field op right kind)
  | member {field : Accessor} {index : Nat} {group : Group}
      (declared : (field.name, field.schema) ∈ type.fields) (here : groups[index]? = some group)
      (membership : group.membership = true) (negated : Bool) :
      Typed type groups (.member field index negated)

/-! ## More groups -/

theorem Operand.Typed.mono {type : RecordType} {groups more : List Group} {kind : ScalarKind}
    {operand : Operand} (typed : operand.Typed type groups kind) (longer : groups <+: more) :
    operand.Typed type more kind := by
  cases typed with
  | field compares => exact .field compares
  | constant compares => exact .constant compares
  | slot member first last same => exact .slot (longer.subset member) first last same

theorem Condition.Typed.mono {type : RecordType} {groups more : List Group} {condition : Condition}
    (typed : condition.Typed type groups) (longer : groups <+: more) :
    condition.Typed type more := by
  induction typed with
  | literal value => exact .literal value
  | and _ _ ihFirst ihSecond => exact .and ihFirst ihSecond
  | or _ _ ihFirst ihSecond => exact .or ihFirst ihSecond
  | not _ ih => exact .not ih
  | isNull declared negated => exact .isNull declared negated
  | guarded declared _ ih => exact .guarded declared ih
  | compare op left right => exact .compare op left (right.mono longer)
  | member declared here membership negated =>
      refine .member declared ?_ membership negated
      rcases longer with ⟨added, rfl⟩
      rcases List.getElem?_eq_some_iff.1 here with ⟨inside, rfl⟩
      rw [List.getElem?_append_left inside, List.getElem?_eq_getElem inside]

theorem RecordType.Compares.widen {type : RecordType} {field : Accessor} {kind : ScalarKind}
    (compares : type.Compares field kind) (numeric : kind.isNumeric = true) :
    type.Compares field .float := by
  rcases compares.own with ⟨own, known, same⟩
  refine ⟨compares.declared, own, known, .inr ⟨?_, rfl⟩⟩
  rcases same with rfl | ⟨wide, -⟩
  · exact numeric
  · exact wide

/-! ## Typed conditions never fail -/

section Evaluation

variable {type : RecordType} {groups : List Group} {arguments : Arguments} {given : Fields}
  {field : Accessor} {kind : ScalarKind}

/-- A field that comparisons of a kind apply to is absent, null, or a value that they can
order. -/
theorem RecordType.Compares.get (compares : type.Compares field kind) (orders : type.Orders given) :
    ∃ found, field.get (.object given) = .ok found ∧
      ∀ value, found = some value → kind.compares value = true := by
  refine ⟨_, rfl, ?_⟩
  intro value here
  rcases Option.filter_eq_some_iff.1 here with ⟨found, present⟩
  rcases compares.own with ⟨own, known, same⟩
  have ordered :=
    (orders _ compares.declared own known value found).resolve_left (by simpa using present)
  rcases same with rfl | ⟨numeric, rfl⟩
  · exact ordered
  · exact ScalarKind.compares_float_of_isNumeric numeric ordered

theorem Condition.operandValue_of_typed {operand : Operand}
    (typed : operand.Typed type groups kind) (filled : arguments.Fills groups)
    (orders : type.Orders given) :
    ∃ found, operandValue (.object given) arguments operand = .ok found ∧
      ∀ value, found = some value → kind.compares value = true := by
  cases typed with
  | field compares => exact compares.get orders
  | @constant constant compares =>
      refine ⟨_, rfl, ?_⟩
      intro value here
      split at here <;> cases here
      exact compares
  | @slot slot group member first last same =>
      refine ⟨_, rfl, ?_⟩
      intro value here
      split at here
      · cases here
      · rename_i present
        cases here
        rw [← same]
        exact (filled.slot group member slot first last).resolve_left present

/-- A typed condition gives an answer on every record that it can order. -/
theorem Condition.evaluate_of_typed {condition : Condition} (typed : condition.Typed type groups)
    (filled : arguments.Fills groups) (orders : type.Orders given) :
    ∃ passed, condition.evaluate (.object given) arguments = .ok passed := by
  induction typed with
  | literal value => exact ⟨value, rfl⟩
  | and _ _ ihFirst ihSecond =>
      rcases ihFirst with ⟨first, evaluated⟩
      rw [evaluate, evaluated]
      cases first with
      | true => exact ihSecond
      | false => exact ⟨false, rfl⟩
  | or _ _ ihFirst ihSecond =>
      rcases ihFirst with ⟨first, evaluated⟩
      rw [evaluate, evaluated]
      cases first with
      | true => exact ⟨true, rfl⟩
      | false => exact ihSecond
  | not _ ih =>
      rcases ih with ⟨passed, evaluated⟩
      rw [evaluate, evaluated]
      exact ⟨!passed, rfl⟩
  | isNull declared negated => exact ⟨_, rfl⟩
  | @guarded field condition declared _ ih =>
      rw [evaluate, Accessor.get, Outcome.ok_bind]
      split
      · exact ih
      · exact ⟨false, rfl⟩
  | @compare field right kind op left typed =>
      rcases left.get orders with ⟨found, read, ordered⟩
      rw [evaluate, read]
      cases found with
      | none => exact ⟨false, rfl⟩
      | some value =>
          rcases operandValue_of_typed typed filled orders with ⟨other, readRight, orderedRight⟩
          simp only [Outcome.ok_bind, readRight]
          cases other with
          | none => exact ⟨false, rfl⟩
          | some other =>
              obtain ⟨order, compared⟩ :=
                compareValues_of_compares (ordered value rfl) (orderedRight other rfl)
              simp only [compared]
              exact ⟨op.holds order, rfl⟩
  | @member field index group declared here membership negated =>
      rcases filled.set index group here membership with ⟨set, known⟩
      rw [evaluate, Accessor.get, Outcome.ok_bind]
      split
      · exact ⟨false, rfl⟩
      · simp only [known]
        exact ⟨_, rfl⟩

end Evaluation

/-! ## Bound expressions are typed -/

namespace Scope

variable {scope : Scope} {field : Accessor} {expr : Sql.Expr}

theorem declared_of_resolve {name : String} (found : scope.resolve name = .ok field) :
    (field.name, field.schema) ∈ scope.type.fields := by
  rw [resolve] at found
  split at found
  · rename_i known
    cases found
    split at known
    · exact RecordType.mem_of_looseField? known
    · exact RecordType.mem_of_field? known
  · cases found

theorem declared_of_field? (found : scope.field? expr = .ok (some field)) :
    (field.name, field.schema) ∈ scope.type.fields := by
  rw [field?.eq_def] at found
  split at found
  · rcases Outcome.map_eq_ok.1 found with ⟨known, resolved, same⟩
    cases same
    exact declared_of_resolve resolved
  · split at found
    · rcases Outcome.map_eq_ok.1 found with ⟨known, resolved, same⟩
      cases same
      exact declared_of_resolve resolved
    · cases found
  · cases found

theorem declared_of_requireField (found : scope.requireField expr = .ok field) :
    (field.name, field.schema) ∈ scope.type.fields := by
  rcases Outcome.bind_eq_ok.1 found with ⟨known, read, found⟩
  cases known with
  | none => cases found
  | some known =>
      cases found
      exact declared_of_field? read

end Scope

namespace Condition

variable {scope : Scope} {binding bound : Binding} {condition : Condition} {field : Accessor}
  {kind : ScalarKind} {type : RecordType} {groups : List Group}

theorem typed_guardedBy (declared : (field.name, field.schema) ∈ type.fields)
    (typed : condition.Typed type groups) : (guardedBy field condition).Typed type groups := by
  rw [guardedBy]
  split
  · exact .guarded declared typed
  · exact typed

theorem compares_of_comparableKind (declared : (field.name, field.schema) ∈ type.fields)
    (known : comparableKind field = .ok kind) : type.Compares field kind := by
  rw [comparableKind] at known
  split at known
  · rename_i own
    cases known
    exact ⟨declared, kind, own, .inl rfl⟩
  · cases known

theorem compares_of_fitsKind {value : Value} (fits : fitsKind kind value = true) :
    kind.compares value = true := by
  cases kind with
  | int | float => cases value <;> simp_all [fitsKind, Value.isNumber, ScalarKind.compares]
  | bool | string | time => exact ScalarKind.compares_of_accepts fits

theorem typed_of_ofField {expr : Sql.Expr} (found : ofField scope expr = .ok condition) :
    condition.Typed scope.type groups := by
  rcases Outcome.bind_eq_ok.1 found with ⟨field, required, found⟩
  have declared := Scope.declared_of_requireField required
  split at found
  · rename_i known
    cases found
    exact typed_guardedBy declared (.compare .eq ⟨declared, .bool, known, .inl rfl⟩ (.constant rfl))
  · cases found

theorem typed_of_ofNullTest {negated : Bool} {expr : Sql.Expr}
    (found : ofNullTest scope negated expr = .ok condition) :
    condition.Typed scope.type groups := by
  rw [ofNullTest.eq_def] at found
  split at found
  · cases found
    exact .literal _
  · rcases Outcome.bind_eq_ok.1 found with ⟨field, required, same⟩
    cases same
    exact .isNull (Scope.declared_of_requireField required) negated

/-- Both fields are compared as values of one kind, numbers of different kinds as
doubles. -/
theorem typed_of_ofFields {left right : Accessor} {op : Sql.CompareOp}
    (declaredLeft : (left.name, left.schema) ∈ type.fields)
    (declaredRight : (right.name, right.schema) ∈ type.fields)
    (found : ofFields left op right = .ok condition) : condition.Typed type groups := by
  rcases Outcome.bind_eq_ok.1 found with ⟨leftKind, knownLeft, found⟩
  rcases Outcome.bind_eq_ok.1 found with ⟨rightKind, knownRight, found⟩
  have ownLeft := compares_of_comparableKind declaredLeft knownLeft
  have ownRight := compares_of_comparableKind declaredRight knownRight
  dsimp only at found
  split at found
  · rename_i same
    cases found
    subst same
    exact typed_guardedBy declaredLeft
      (typed_guardedBy declaredRight (.compare op ownLeft (.field ownRight)))
  · split at found
    · rename_i numeric
      cases found
      rw [Bool.and_eq_true] at numeric
      exact typed_guardedBy declaredLeft (typed_guardedBy declaredRight
        (.compare op (ownLeft.widen numeric.1) (.field (ownRight.widen numeric.2))))
    · cases found

/-- A comparison with a placeholder adds a group for its slot; any other adds nothing. -/
theorem ofOperand_eq_ok {op : Sql.CompareOp} {operand : Sql.Expr}
    (declared : (field.name, field.schema) ∈ type.fields)
    (found : ofOperand field op operand binding = .ok (condition, bound)) :
    binding.Extends bound ∧ condition.Typed type bound.groups := by
  rcases Outcome.bind_eq_ok.1 found with ⟨kind, known, found⟩
  have own := compares_of_comparableKind declared known
  split at found
  · split at found <;> cases found
    · exact ⟨.refl binding, .isNull declared false⟩
    · exact ⟨.refl binding, .isNull declared true⟩
    · exact ⟨.refl binding, .literal false⟩
  · cases found
    refine ⟨Binding.extends_addPlaceholder binding field.name kind, ?_⟩
    apply typed_guardedBy declared
    refine .compare op own (.slot (List.mem_append_right _ List.mem_cons_self) ?_ ?_ rfl)
    · exact Nat.le_refl _
    · simp [Binding.pushPlaceholder]
  · split at found
    · cases found
    · split at found
      · rename_i fits
        cases found
        refine ⟨.refl binding, ?_⟩
        exact typed_guardedBy declared (.compare op own (.constant (compares_of_fitsKind fits)))
      · cases found

theorem typed_of_ofLiterals {left right : Sql.Expr} {op : Sql.CompareOp}
    (found : ofLiterals left op right = .ok condition) : condition.Typed type groups := by
  rw [ofLiterals] at found
  split at found
  · split at found
    · cases found
      exact .literal false
    · split at found
      all_goals
        dsimp only at found
        split at found <;> cases found
        exact .literal _
  · cases found

theorem ofComparison_eq_ok {left right : Sql.Expr} {op : Sql.CompareOp}
    (found : ofComparison scope left op right binding = .ok (condition, bound)) :
    binding.Extends bound ∧ condition.Typed scope.type bound.groups := by
  rcases Outcome.bind_eq_ok.1 found with ⟨leftField, readLeft, found⟩
  rcases Outcome.bind_eq_ok.1 found with ⟨rightField, readRight, found⟩
  cases leftField with
  | some left =>
      have declaredLeft := Scope.declared_of_field? readLeft
      cases rightField with
      | some right =>
          rcases Outcome.bind_eq_ok.1 found with ⟨compared, made, same⟩
          cases same
          exact ⟨.refl binding,
            typed_of_ofFields declaredLeft (Scope.declared_of_field? readRight) made⟩
      | none => exact ofOperand_eq_ok declaredLeft found
  | none =>
      cases rightField with
      | some right => exact ofOperand_eq_ok (Scope.declared_of_field? readRight) found
      | none =>
          rcases Outcome.bind_eq_ok.1 found with ⟨compared, made, same⟩
          cases same
          exact ⟨.refl binding, typed_of_ofLiterals made⟩

theorem ofMembership_eq_ok {operand : Sql.Expr} {items : List Sql.Expr} {negated : Bool}
    (found : ofMembership scope operand items negated binding = .ok (condition, bound)) :
    binding.Extends bound ∧ condition.Typed scope.type bound.groups := by
  rcases Outcome.bind_eq_ok.1 found with ⟨field, required, found⟩
  have declared := Scope.declared_of_requireField required
  have listed {kind : ScalarKind} {values : List (Option Value)} {group : Nat}
      (added : binding.addMembership field.name kind values = (.ok group, bound)) :
      binding.Extends bound ∧
        (guardedBy field (.member field group negated)).Typed scope.type bound.groups := by
    rcases Binding.addMembership_eq_ok added with ⟨grown, last, groups, rfl, -, membership⟩
    refine ⟨grown, typed_guardedBy declared (.member declared ?_ membership negated)⟩
    rw [groups, List.getElem?_append_right (Nat.le_refl _), Nat.sub_self]
    rfl
  dsimp only at found
  split at found
  case h_3 => cases found
  all_goals
    rcases Outcome.bind_eq_ok.1 found with ⟨kind, -, found⟩
    rcases Outcome.bind_eq_ok.1 found with ⟨values, -, found⟩
    split at found
    · rename_i added
      cases found
      exact listed added
    · cases found

/-- Binding an expression extends the binding, and gives a condition on records of the
type with the slots and sets of the binding. -/
theorem ofExpr_eq_ok {expr : Sql.Expr}
    (found : ofExpr scope expr binding = .ok (condition, bound)) :
    binding.Extends bound ∧ condition.Typed scope.type bound.groups := by
  fun_induction ofExpr scope expr binding generalizing condition bound with
  | case1 left right binding ihLeft ihRight | case2 left right binding ihLeft ihRight =>
      rcases Outcome.bind_eq_ok.1 found with ⟨⟨first, middle⟩, bindsLeft, found⟩
      rcases Outcome.bind_eq_ok.1 found with ⟨⟨second, last⟩, bindsRight, same⟩
      cases same
      rcases ihLeft bindsLeft with ⟨grown, typedLeft⟩
      rcases ihRight middle bindsRight with ⟨further, typedRight⟩
      refine ⟨grown.trans further, ?_⟩
      constructor
      · exact typedLeft.mono further.groups
      · exact typedRight
  | case3 op left right binding => exact ofComparison_eq_ok found
  | case4 operand binding ih =>
      rcases Outcome.bind_eq_ok.1 found with ⟨⟨inner, last⟩, binds, same⟩
      cases same
      rcases ih binds with ⟨grown, typed⟩
      exact ⟨grown, .not typed⟩
  | case5 operand binding | case6 operand binding =>
      rcases Outcome.bind_eq_ok.1 found with ⟨test, made, same⟩
      cases same
      exact ⟨.refl binding, typed_of_ofNullTest made⟩
  | case7 operand items negated binding => exact ofMembership_eq_ok found
  | case8 value binding =>
      cases found
      exact ⟨.refl binding, .literal value⟩
  | case9 name binding | case10 table column binding =>
      rcases Outcome.bind_eq_ok.1 found with ⟨test, made, same⟩
      cases same
      exact ⟨.refl binding, typed_of_ofField made⟩
  | case11 => cases found

end Condition

end RecordQuery
