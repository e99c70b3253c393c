import RecordQuery.Proofs.Outcome
import RecordQuery.Proofs.Schema.Layers

/-!
# How a path is bound

Binding a path succeeds in few ways. The lemmas here say, for the end of a path and for a
step of it, all that a success implies and the route that it gives.
-/

namespace RecordQuery

namespace Schema

/-- The core of a schema is a scalar or a record. -/
theorem core_cases (schema : Schema) :
    (∃ kind, schema.core = .scalar kind) ∨ ∃ name fields, schema.core = .record name fields := by
  induction schema using layers with
  | optional inner ih => exact ih
  | array element ih => exact ih
  | scalar kind => exact .inl ⟨kind, rfl⟩
  | record name fields => exact .inr ⟨name, fields, rfl⟩

end Schema

namespace Route

variable {label : String} {schema : Schema} {binding bound : Binding} {route : Route}

/-- A path ends at records, which its last filter is bound to, or at scalars without a
filter. -/
theorem bindAt_leaf_eq_ok {filter : Option Filter}
    (found : bindAt label schema (.leaf filter) binding = .ok (route, bound)) :
    (∃ name fields condition, schema.core = .record name fields ∧
      bindFilter ⟨name, fields⟩ binding filter = .ok (condition, bound) ∧
      route = throughArrays label schema.arrays (.leaf label schema.core condition)) ∨
    (∃ kind, schema.core = .scalar kind ∧ filter = none ∧ bound = binding ∧
      route = throughArrays label schema.arrays (.leaf label schema.core none)) := by
  rw [bindAt] at found
  rcases schema.core_cases with ⟨kind, core⟩ | ⟨name, fields, core⟩
  · rw [core] at found ⊢
    cases filter with
    | some filter => cases found
    | none =>
        cases found
        exact .inr ⟨kind, rfl, rfl, rfl, rfl⟩
  · rw [core] at found ⊢
    rcases Outcome.bind_eq_ok.1 found with ⟨⟨condition, last⟩, made, same⟩
    cases same
    exact .inl ⟨name, fields, condition, rfl, made, rfl⟩

/-- A path goes on only at records, which have the field that it names. Its filter is
bound before the rest of the path. -/
theorem bindAt_step_eq_ok {filter : Option Filter} {name : String} {next : Path}
    (found : bindAt label schema (.step filter name next) binding = .ok (route, bound)) :
    ∃ recordName fields condition middle field onward, schema.core = .record recordName fields ∧
      bindFilter ⟨recordName, fields⟩ binding filter = .ok (condition, middle) ∧
      RecordType.field? ⟨recordName, fields⟩ name = some field ∧
      bindAt field.name field.schema next middle = .ok (onward, bound) ∧
      route = throughArrays label schema.arrays
        (.descend label schema.core condition field onward) := by
  rw [bindAt] at found
  rcases schema.core_cases with ⟨kind, core⟩ | ⟨recordName, fields, core⟩
  · rw [core] at found
    cases found
  · rw [core] at found ⊢
    rcases Outcome.bind_eq_ok.1 found with ⟨⟨condition, middle⟩, made, found⟩
    cases known : RecordType.field? ⟨recordName, fields⟩ name with
    | none =>
        simp only [known] at found
        cases found
    | some field =>
        simp only [known] at found
        rcases Outcome.bind_eq_ok.1 found with ⟨⟨onward, last⟩, bound, same⟩
        cases same
        exact ⟨recordName, fields, condition, middle, field, onward, rfl, made, known, bound, rfl⟩

end Route

end RecordQuery
