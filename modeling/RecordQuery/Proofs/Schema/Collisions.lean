import RecordQuery.Proofs.Schema.NormalForm

/-!
# Keys and fields that collide

Several keys of an object may be loosely equal, and so may several fields of a record. Conforming
looks at loose names only: of such keys the last one counts, and of such fields the first one
receives its value, while the others are left with zero. So a value that stands under exactly the
name of a field can get lost, although a look-up of that name finds the field before all others.
-/

namespace RecordQuery

namespace Schema

variable {given : Fields}

theorem names_conformFields (fields : List (String × Schema)) (given : Fields) :
    (conformFields fields given).map Prod.fst = fields.map Prod.fst := by
  induction fields generalizing given with
  | nil => rfl
  | cons field rest ih => rw [conformFields_cons, List.map_cons, List.map_cons, ih]

/-- A field receives the value that is given for it, unless a field in front of it has taken it. -/
theorem mem_conformFields (name : String) (schema : Schema)
    (distinct : (given.map Prod.fst).Nodup) (before after : List (String × Schema)) :
    (name, schema.receive
        (if ∃ earlier ∈ before, looseName earlier.1 = looseName name then none
          else given.get? (looseName name))) ∈
      conformFields (before ++ (name, schema) :: after) given := by
  induction before generalizing given with
  | nil =>
      rw [List.nil_append, conformFields_cons, if_neg (by simp)]
      exact List.mem_cons_self
  | cons first rest ih =>
      have later := ih (Fields.nodup_names_erase distinct (looseName first.1))
      rw [List.cons_append, conformFields_cons]
      apply List.mem_cons_of_mem
      by_cases taken : looseName first.1 = looseName name
      · rw [taken, Fields.get?_erase_self distinct, ite_self] at later
        rw [if_pos ⟨first, List.mem_cons_self, taken⟩, taken]
        exact later
      · rw [Fields.get?_erase_of_ne given (Ne.symm taken)] at later
        simpa only [List.exists_mem_cons_iff, taken, false_or] using later

end Schema

namespace RecordType

variable {type : RecordType} {name : String} {schema : Schema}
  {before after : List (String × Schema)} {given : Fields} {value : Value}

/-- What an object has in a field once it is conformed. -/
theorem get?_conform (names : (type.fields.map Prod.fst).Nodup)
    (field : type.fields = before ++ (name, schema) :: after) (given : Fields) :
    ∃ entries, type.conform (.object given) = .object entries ∧
      Fields.get? entries name = some (schema.receive
        (if ∃ earlier ∈ before, looseName earlier.1 = looseName name then none
          else given.loose? name)) := by
  have single : ((Schema.conformFields type.fields (looseFields given)).map Prod.fst).Nodup := by
    rwa [Schema.names_conformFields]
  have inside := Schema.mem_conformFields name schema (Fields.nodup_names_looseFields given)
    before after
  rw [← field, Fields.get?_looseFields] at inside
  refine ⟨_, rfl, ?_⟩
  rw [Fields.ofWrites_of_nodup single]
  exact Fields.get?_of_mem single inside

/-- A field is found by its exact name before all fields of loosely equal names. -/
theorem looseField?_of_mem (names : (type.fields.map Prod.fst).Nodup)
    (member : (name, schema) ∈ type.fields) :
    (type.looseField? name).map (fun field => (field.name, field.schema)) =
      some (name, schema) := by
  rw [looseField?]
  cases found : type.field? name with
  | none =>
      rcases exists_accessor member with ⟨accessor, listed, same⟩
      have other := List.find?_eq_none.1 found accessor listed
      exact absurd (beq_iff_eq.2 (congrArg Prod.fst same)) other
  | some own =>
      have named : own.name = name := by simpa using List.find?_some found
      have declared := mem_of_field? found
      rw [named] at declared
      have one := Schema.eq_of_mem_of_nodup names declared member
      rw [Option.some_or, Option.map_some, named, one]

/-- A field whose exact name is a key receives the value of this key exactly where no field in front
of it has a loosely equal name and the last of the loosely equal keys is this one, or has a value
that conforms to the same; or where a field in front of it does have such a name and the value
conforms to zero. A look-up of the name finds this field in any case. -/
theorem conform_receives_exact_iff (names : (type.fields.map Prod.fst).Nodup)
    (field : type.fields = before ++ (name, schema) :: after) (key : (name, value) ∈ given) :
    (∃ entries, type.conform (.object given) = .object entries ∧
      (Fields.get? entries name = some (schema.conform value) ↔
        (∀ earlier ∈ before, looseName earlier.1 ≠ looseName name) ∧
            (∃ last, given.loose? name = some last ∧
              schema.conform last = schema.conform value) ∨
          (∃ earlier ∈ before, looseName earlier.1 = looseName name) ∧
            schema.zero = schema.conform value)) ∧
    (type.looseField? name).map (fun field => (field.name, field.schema)) =
      some (name, schema) := by
  have member : (name, schema) ∈ type.fields := by
    rw [field]
    exact List.mem_append_right before List.mem_cons_self
  refine ⟨?_, looseField?_of_mem names member⟩
  rcases get?_conform names field given with ⟨entries, same, received⟩
  refine ⟨entries, same, ?_⟩
  rw [received, Option.some.injEq]
  by_cases taken : ∃ earlier ∈ before, looseName earlier.1 = looseName name
  · have refuted : ¬ ∀ earlier ∈ before, looseName earlier.1 ≠ looseName name := by
      simpa only [not_forall, not_not, exists_prop] using taken
    rw [if_pos taken, Schema.receive, and_iff_right taken, or_iff_right fun both => refuted both.1]
  · have free : ∀ earlier ∈ before, looseName earlier.1 ≠ looseName name :=
      fun earlier inside same => taken ⟨earlier, inside, same⟩
    rw [if_neg taken, and_iff_right free, or_iff_left fun both => taken both.1]
    cases found : given.loose? name with
    | none =>
        have other := Fields.loose?_eq_none_iff.1 found (name, value) key
        exact absurd rfl other
    | some last => simp only [Schema.receive, Option.some.injEq, exists_eq_left']

/-! ### Two fields for one loose name -/

/-- Badges with two fields whose names differ in case only. -/
def badge : RecordType := ⟨"Badge", [("Id", .scalar .string), ("ID", .scalar .string)]⟩

theorem nodup_badge : (badge.fields.map Prod.fst).Nodup := by decide

def stamps : Fields := [("ID", .string "b"), ("Id", .string "a")]

/-- The last of the keys is exactly the name of the first field, which receives its value. -/
theorem conform_receives_exact_iff_badge :
    (badge.fields.map Prod.fst).Nodup ∧ ("Id", .string "a") ∈ stamps ∧
      ∃ entries, badge.conform (.object stamps) = .object entries ∧
        Fields.get? entries "Id" = some (.string "a") := by
  have key : ("Id", Value.string "a") ∈ stamps := .tail _ (.head _)
  have last : Fields.loose? stamps "Id" = some (.string "a") :=
    Fields.loose?_eq_some_iff.2 ⟨[("ID", .string "b")], "Id", [], rfl, rfl, by simp⟩
  have field : badge.fields = [] ++ ("Id", .scalar .string) :: [("ID", .scalar .string)] := rfl
  rcases (conform_receives_exact_iff nodup_badge field key).1 with ⟨entries, same, received⟩
  exact ⟨nodup_badge, key, entries, same, received.2 (.inl ⟨by simp, _, last, rfl⟩)⟩

/-- With the keys in the order of the fields, the first field receives the value of the second and
the second is left with zero, although both names are keys. -/
theorem exact_value_lost :
    (badge.fields.map Prod.fst).Nodup ∧ (stamps.reverse.map Prod.fst).Nodup ∧
      ("Id", .string "a") ∈ stamps.reverse ∧ ("ID", .string "b") ∈ stamps.reverse ∧
      ∃ entries, badge.conform (.object stamps.reverse) = .object entries ∧
        Fields.get? entries "Id" = some (.string "b") ∧
        Fields.get? entries "ID" = some (.string "") := by
  refine ⟨nodup_badge, by decide, .head _, .tail _ (.head _),
    [("Id", .string "b"), ("ID", .string "")], ?_, rfl, rfl⟩
  with_unfolding_all rfl

end RecordType

end RecordQuery
