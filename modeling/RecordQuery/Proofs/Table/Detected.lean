import RecordQuery.Proofs.Table.Casts

/-!
# Column lists that tell a type

A column list that tells the type of its table is bound to this type by a second reading of the same
columns. Both readings find the same names and kinds. The second one also makes the values, and that
a value cannot be cast is the only thing that it can still refuse.
-/

namespace RecordQuery

open Sql (Expr Column)

/-- Whether a column casts a placeholder. -/
def Sql.Column.castsPlaceholder : Column → Bool
  | .call name [.placeholder _, .column _] _ => name.toLower == "cast"
  | _ => false

/-- The value that a cast starts from when a number of arguments are taken: the next argument, or a
literal. -/
def castStart? (args : List Value) (taken : Nat) : Expr → Option Value
  | .placeholder _ => args[taken]?
  | source => source.literal?

/-- Where a column is a cast, there is a value to start from, and it can be cast. -/
def Sql.Column.Castable (args : List Value) (taken : Nat) : Column → Prop
  | .call name [source, .column target] _ =>
      name.toLower = "cast" → ∀ kind, ScalarKind.ofCastTarget? target.toLower = some kind →
        ∃ start value, castStart? args taken source = some start ∧ kind.cast? start = some value
  | _ => True

namespace RowPlan

variable {table : String} {now : Instant} {type : RecordType} {args : List Value} {taken : Nat}
  {column : Column} {columns : List Column}

/-! ## One column -/

theorem length_asked (column : Column) :
    column.asked.length = column.castsPlaceholder.toNat := by
  unfold Column.castsPlaceholder
  split
  · rename_i name index target label
    rw [Column.asked]
    cases name.toLower == "cast" <;> rfl
  · rename_i other
    cases column with
    | call name parts label =>
        rw [Column.asked, castPlaceholder.eq_def]
        split
        · split
          · exact absurd rfl (other name _ _ label)
          · rfl
        · rfl
    | _ => rfl

/-- The number of arguments that a column list takes. -/
theorem askedCount_eq_countP (columns : List Column) :
    askedCount columns = columns.countP Column.castsPlaceholder := by
  induction columns with
  | nil => rfl
  | cons column rest ih =>
      rw [askedCount_cons, ih, length_asked, List.countP_cons]
      cases column.castsPlaceholder <;> simp [Nat.add_comm]

/-- The source of a cast gives the value that it starts from, or the cast is refused for its
argument. -/
theorem castSource_eq {context : Context} (label : String) (source : Expr) (target : String) :
    castSource context label taken source =
      match castStart? context.args taken source with
      | some start => .ok (start, taken + (castPlaceholder [source, .column target]).length)
      | none => .error (.argument (match source with
          | .placeholder _ => .missingCastArgument label
          | other => .unsupportedCastSource label other)) := by
  cases source with
  | placeholder index =>
      rw [castSource, castStart?]
      cases context.args[taken]? <;> rfl
  | _ => rfl

theorem ofCastTarget?_of_castParts {label target : String} {source : Expr} {kind : ScalarKind}
    (found : castParts label [source, .column target] = .ok (kind, source)) :
    ScalarKind.ofCastTarget? target.toLower = some kind := by
  rw [castParts] at found
  cases known : ScalarKind.ofCastTarget? target.toLower with
  | none =>
      rw [known] at found
      cases found
  | some other =>
      rw [known] at found
      cases found
      rfl

theorem castable_cast_iff {name target : String} {source : Expr} {kind : ScalarKind}
    {label : Option String} (cast : (name.toLower == "cast") = true)
    (known : ScalarKind.ofCastTarget? target.toLower = some kind) :
    (Column.call name [source, .column target] label).Castable args taken ↔
      ∃ start value, castStart? args taken source = some start ∧ kind.cast? start = some value := by
  constructor
  · exact fun castable => castable (eq_of_beq cast) kind known
  · intro made _ other same
    cases known.symm.trans same
    exact made

theorem castable_of_now {name : String} (now : ColumnFunction.ofName name = .ok .now)
    (parts : List Expr) (label : Option String) :
    (Column.call name parts label).Castable args taken := by
  unfold Column.Castable
  split
  · rename_i same
    cases same
    exact fun cast => absurd cast (beq_eq_false_iff_ne.1 (ofName_now now))
  · trivial

/-- A literal that tells a field is shown in it. -/
theorem ofExpression_of_detect {expr : Expr} {own : Option String} {label : String}
    {kind : ScalarKind} (detected : (Column.expression expr own).detect table = .ok (label, kind)) :
    ∃ value, ofExpression expr own = .ok ⟨label, .scalar kind, .constant value⟩ := by
  rcases Outcome.bind_eq_ok.1 detected with ⟨name, labelled, detected⟩
  rw [ofExpression, labelled]
  cases literal : expr.literal? with
  | none =>
      rw [literal] at detected
      cases detected
  | some value =>
      rw [literal, Option.bind_some] at detected
      cases known : value.kind? with
      | none =>
          rw [known] at detected
          cases detected
      | some kind =>
          rw [known] at detected
          cases detected
          exact ⟨value, by simp [known]⟩

/-- A column that tells a field of the type becomes the column of this field, or it is a cast that
is refused for its argument. -/
theorem add_of_detect (plan : RowPlan) {label : String} {kind : ScalarKind}
    (detected : column.detect table = .ok (label, kind)) :
    (column.Castable args plan.consumed ∧
      ∃ value, add ⟨now, type, args⟩ plan column =
        .ok ⟨plan.columns ++ [⟨label, .scalar kind, .constant value⟩],
          plan.consumed + column.asked.length⟩) ∨
    (¬column.Castable args plan.consumed ∧
      ∃ fault, add ⟨now, type, args⟩ plan column = .error (.argument fault)) := by
  cases column with
  | star => cases detected
  | field name own => cases detected
  | expression expr own =>
      rcases ofExpression_of_detect detected with ⟨value, made⟩
      refine .inl ⟨trivial, value, ?_⟩
      rw [add, made]
      rfl
  | call name parts own =>
      rcases Outcome.bind_eq_ok.1 detected with ⟨function, named, detected⟩
      cases function with
      | now =>
          cases detected
          refine .inl ⟨castable_of_now named parts own, .string now.text, ?_⟩
          rw [Column.asked, ofName_now named]
          simp only [add, ofCall, named, Outcome.ok_bind]
          rfl
      | cast =>
          rcases Outcome.bind_eq_ok.1 detected with ⟨⟨kind, source⟩, split, same⟩
          cases same
          rcases castParts_eq_ok split with ⟨target, rfl⟩
          have cast := ofName_cast named
          rw [castable_cast_iff cast (ofCastTarget?_of_castParts split), Column.asked, if_pos cast]
          simp only [add, ofCall, named, split, castSource_eq _ source target, Outcome.ok_bind]
          cases castStart? args plan.consumed source with
          | none => exact .inr ⟨by simp, _, rfl⟩
          | some start =>
              simp only [Outcome.ok_bind, ScalarKind.cast]
              cases made : kind.cast? start with
              | none => exact .inr ⟨by simp [made], _, rfl⟩
              | some value => exact .inl ⟨⟨start, value, rfl, made⟩, value, rfl⟩

/-! ## The columns in turn -/

/-- Every cast of a list can be made with the arguments that the casts before it have left. -/
def CastsAll (args : List Value) (taken : Nat) (columns : List Column) : Prop :=
  ∀ front column behind, columns = front ++ column :: behind →
    column.Castable args (taken + front.countP Column.castsPlaceholder)

theorem castsAll_cons {rest : List Column} :
    CastsAll args taken (column :: rest) ↔
      column.Castable args taken ∧ CastsAll args (taken + column.asked.length) rest := by
  have count (front : List Column) :
      taken + (column :: front).countP Column.castsPlaceholder =
        taken + column.asked.length + front.countP Column.castsPlaceholder := by
    rw [← askedCount_eq_countP, askedCount_cons, askedCount_eq_countP, Nat.add_assoc]
  constructor
  · intro all
    refine ⟨all [] column rest rfl, fun front other behind same => ?_⟩
    rw [← count]
    exact all (column :: front) other behind (congrArg _ same)
  · rintro ⟨first, all⟩ front other behind same
    cases front with
    | nil =>
        cases same
        exact first
    | cons head front =>
        cases same
        rw [count]
        exact all front other behind rfl

/-- Columns that tell fields become the columns of these fields, or one of the casts is refused for
its argument. -/
theorem foldlM_add_of_detect (plan : RowPlan) {fields : List (String × ScalarKind)}
    (detected : columns.mapM (Column.detect table) = .ok fields) :
    (CastsAll args plan.consumed columns ∧
      ∃ made, columns.foldlM (add ⟨now, type, args⟩) plan =
          .ok ⟨plan.columns ++ made, plan.consumed + askedCount columns⟩ ∧
        made.map (fun column => (column.name, column.schema)) =
          fields.map fun field => (field.1, .scalar field.2)) ∨
    (¬CastsAll args plan.consumed columns ∧
      ∃ fault, columns.foldlM (add ⟨now, type, args⟩) plan = .error (.argument fault)) := by
  -- For any plan, since the casts in front have taken arguments already.
  induction columns generalizing plan fields with
  | nil =>
      cases detected
      refine .inl ⟨fun front column behind same => by simp at same, [], ?_, rfl⟩
      rw [List.append_nil]
      rfl
  | cons column rest ih =>
      rw [List.mapM_cons] at detected
      rcases Outcome.bind_eq_ok.1 detected with ⟨⟨label, kind⟩, first, detected⟩
      rcases Outcome.bind_eq_ok.1 detected with ⟨others, behind, same⟩
      cases same
      rw [castsAll_cons, List.foldlM_cons, askedCount_cons]
      rcases add_of_detect plan first with ⟨castable, value, added⟩ | ⟨not, fault, added⟩
      · rw [added, Outcome.ok_bind]
        rcases ih ⟨_, plan.consumed + column.asked.length⟩ behind
          with ⟨all, made, run, shown⟩ | ⟨not, fault, run⟩
        · refine .inl ⟨⟨castable, all⟩, ⟨label, .scalar kind, .constant value⟩ :: made, ?_, ?_⟩
          · rw [run, List.append_assoc, Nat.add_assoc]
            rfl
          · rw [List.map_cons, List.map_cons, shown]
        · exact .inr ⟨fun all => not all.2, fault, run⟩
      · rw [added]
        exact .inr ⟨fun all => not all.1, fault, rfl⟩

/-- A column list that tells a type is bound to this type as long as every cast has a value to start
from that can be cast. Then the columns have the names and the schemas of the fields, in order, and
every cast of a placeholder takes one argument. Otherwise a cast is refused for its argument, and
nothing else is ever refused. -/
theorem compile_of_detect (detected : RecordType.detect table columns = .ok type) :
    (CastsAll args 0 columns ↔ ∃ plan, compile ⟨now, type, args⟩ columns = .ok plan) ∧
    ((∃ plan, compile ⟨now, type, args⟩ columns = .ok plan ∧
        plan.columns.map (fun column => (column.name, column.schema)) = type.fields ∧
        plan.consumed = columns.countP Column.castsPlaceholder) ∨
      ∃ fault, compile ⟨now, type, args⟩ columns = .error (.argument fault)) := by
  rcases Outcome.bind_eq_ok.1 detected with ⟨fields, told, same⟩
  cases same
  rw [compile]
  rcases foldlM_add_of_detect ⟨[], 0⟩ told with ⟨all, made, run, shown⟩ | ⟨not, fault, run⟩
  · rw [run]
    refine ⟨iff_of_true all ⟨_, rfl⟩, .inl ⟨_, rfl, shown, ?_⟩⟩
    rw [Nat.zero_add, askedCount_eq_countP]
  · rw [run]
    refine ⟨iff_of_false not ?_, .inr ⟨fault, rfl⟩⟩
    rintro ⟨plan, found⟩
    cases found

/-- `1 AS ID, CAST(? AS CHAR) AS NAME, CAST(? AS int) AS VALUE, NOW() AS TS`. -/
def mixed : List Column :=
  [.expression (.integer 1) (some "ID"),
    .call "CAST" [.placeholder 0, .column "CHAR"] (some "NAME"),
    .call "CAST" [.placeholder 1, .column "int"] (some "VALUE"),
    .call "NOW" [] (some "TS")]

/-- The fields of these columns. -/
def mixedType : RecordType :=
  ⟨"single", [("ID", .scalar .int), ("NAME", .scalar .string), ("VALUE", .scalar .int),
    ("TS", .scalar .time)]⟩

/-- The columns take a name and a number from the arguments; a second name is refused. -/
theorem compile_of_detect_mixed :
    (∃ plan, compile ⟨⟨0, 0⟩, mixedType, [.string "name1", .string "10", .string "extra"]⟩ mixed =
        .ok plan ∧
      plan.columns.map (fun column => (column.name, column.schema)) = mixedType.fields ∧
      plan.consumed = 2) ∧
    ∃ fault, compile ⟨⟨0, 0⟩, mixedType, [.string "name1", .string "name2"]⟩ mixed =
      .error (.argument fault) := by
  have detected : RecordType.detect "single" mixed = .ok mixedType := by with_unfolding_all rfl
  have counted : mixed.countP Column.castsPlaceholder = 2 := by decide +kernel
  constructor
  · have bound : ∃ plan, compile
        ⟨⟨0, 0⟩, mixedType, [.string "name1", .string "10", .string "extra"]⟩ mixed = .ok plan :=
      Outcome.exists_of_isOk (by decide +kernel)
    rw [← counted]
    refine (compile_of_detect detected).2.resolve_right ?_
    rintro ⟨fault, refused⟩
    rcases bound with ⟨plan, found⟩
    cases found.symm.trans refused
  · refine (compile_of_detect detected).2.resolve_left ?_
    rintro ⟨plan, found, -⟩
    have bound : (compile ⟨⟨0, 0⟩, mixedType, [.string "name1", .string "name2"]⟩
        mixed).isOk = false := by decide +kernel
    rw [found] at bound
    cases bound

end RowPlan

end RecordQuery
