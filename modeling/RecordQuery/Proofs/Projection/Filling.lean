import RecordQuery.Proofs.Projection.Compiled
import RecordQuery.Proofs.Route.Rows

/-!
# Rows that are filled

A row starts from the zero values of its destination and is filled by one leaf after the other.
All the while it has just the fields of the destination, in their order, and each of them holds a
value of its schema.
-/

namespace RecordQuery

variable {fits : Schema → Value → Prop}

/-- What a row holds for a field: a fitting value under its name, null only where it may be. -/
structure Schema.Entry (fits : Schema → Value → Prop) (field : String × Schema)
    (entry : String × Value) : Prop where
  name : entry.1 = field.1
  fit : fits field.2 entry.2
  null : entry.2.isNull = true → field.2.isOptional = true

/-- A row has just the fields of a type, in their order. -/
def RecordType.Filled (fits : Schema → Value → Prop) (type : RecordType) (row : Fields) : Prop :=
  List.Forall₂ (Schema.Entry fits) type.fields row

theorem Schema.isOptional_of_zero {schema : Schema} (null : schema.zero.isNull = true) :
    schema.isOptional = true := by
  cases schema with
  | optional inner => rfl
  | scalar kind => cases kind <;> cases null
  | array element => cases null
  | record name fields => cases null

namespace Schema.Entry

variable {fields : List (String × Schema)} {row : Fields}

theorem insert (distinct : (fields.map Prod.fst).Nodup)
    (entries : List.Forall₂ (Entry fits) fields row) {field : String × Schema}
    (declared : field ∈ fields) {value : Value} (fit : fits field.2 value)
    (present : value.isNull = false) :
    List.Forall₂ (Entry fits) fields (Fields.insert row field.1 value) := by
  induction entries with
  | nil => cases declared
  | @cons first entry rest others own entries ih =>
      rw [List.map_cons, List.nodup_cons] at distinct
      rw [Fields.insert, own.name]
      rcases List.mem_cons.1 declared with rfl | later
      · rw [if_pos (beq_self_eq_true _)]
        refine .cons ⟨rfl, fit, ?_⟩ entries
        exact fun null => absurd (present.symm.trans null) Bool.false_ne_true
      · have different : ¬ (first.1 == field.1) = true := by
          intro same
          exact distinct.1 (beq_iff_eq.1 same ▸ List.mem_map_of_mem later)
        rw [if_neg different]
        exact .cons ⟨rfl, own.fit, own.null⟩ (ih distinct.2 later)

end Schema.Entry

namespace RecordType.Filled

variable {type : RecordType} {row : Fields}

/-- The zero values of a type are a row of it. -/
theorem zero (fitting : Schema.Fitting fits) (distinct : type.schema.Distinct) :
    ∃ row, type.zero = .object row ∧ type.Filled fits row := by
  cases distinct with
  | record names each =>
      refine ⟨_, Schema.zero_record names, List.forall₂_map_right_iff.2 (List.forall₂_same.2 ?_)⟩
      intro field member
      exact ⟨rfl, fitting.zero (each field member), Schema.isOptional_of_zero⟩

end RecordType.Filled

namespace Projection

variable {source into : RecordType} {leaf given : Fields} {projection : Projection}

/-- Nodes with a number, and a tag that may be missing. -/
def tagged : RecordType := ⟨"Node", [("ID", .scalar .int), ("Tag", .optional (.scalar .string))]⟩

end Projection

end RecordQuery
