import RecordQuery.Proofs.Condition.Typing
import RecordQuery.Proofs.Path.Leaves

/-!
# Walks through conforming values

The points of a bound route expect what its schema declares: arrays where it goes through
elements, records where it tests a filter or descends. On a value that conforms to the
schema no walk meets a fault, and every leaf conforms to the schema of the leaves.
-/

namespace RecordQuery

variable {α β : Type} {arguments : Arguments}

/-! ## Trails without a fault -/

/-- A trail reaches its end, and all of its items have a property. -/
structure Trail.Calm (good : α → Prop) (trail : Trail α) : Prop where
  fault : trail.fault = none
  items : ∀ item ∈ trail.items, good item

namespace Trail.Calm

variable {good : α → Prop}

theorem empty : Calm good .empty := ⟨rfl, by simp [Trail.empty]⟩

theorem one {item : α} (holds : good item) : Calm good (.one item) :=
  ⟨rfl, by simpa [Trail.one] using holds⟩

theorem append {first second : Trail α} (before : Calm good first) (behind : Calm good second) :
    Calm good (first ++ second) := by
  rcases first with ⟨items, fault⟩
  cases before.fault
  refine ⟨behind.fault, ?_⟩
  intro item member
  rcases List.mem_append.1 member with early | late
  · exact before.items item early
  · exact behind.items item late

theorem all {trailOf : β → Trail α} {elements : List β}
    (each : ∀ element ∈ elements, Calm good (trailOf element)) :
    Calm good (Trail.all trailOf elements) := by
  induction elements with
  | nil => exact empty
  | cons first rest ih =>
      refine (each first List.mem_cons_self).append (ih ?_)
      exact fun element member => each element (List.mem_cons_of_mem _ member)

end Trail.Calm

/-- A conforming value spreads calmly when the values of the core do. -/
theorem Schema.calm_spread {good : α → Prop} {core : Schema → Value → Trail α} {label : String}
    {schema : Schema} {value : Value} (conforms : schema.Conforms value)
    (each : ∀ value, value.isNull = false → schema.core.Conforms value →
      Trail.Calm good (core schema.core value)) :
    Trail.Calm good (schema.spread label core value) := by
  induction schema using layers generalizing value with
  | optional inner ih => exact ih (conforms_optional.1 conforms) each
  | array element ih =>
      rw [spread]
      split
      · exact .empty
      · rename_i present
        rcases conforms.items (by simpa using present) with ⟨items, rfl, inside⟩
        exact .all fun item member => ih (inside item member) each
  | scalar kind | record name fields =>
      rw [spread]
      split
      · exact .empty
      · rename_i present
        exact each value (by simpa using present) conforms

namespace Route

variable {type : RecordType} {binding middle bound : Binding} {label : String} {schema : Schema}
  {route : Route} {condition : Option Condition}

/-! ## Filters -/

/-- Binding a filter extends the binding; what it gives is a condition on records of the
type. -/
theorem bindFilter_eq_ok {filter : Option Filter}
    (found : bindFilter type binding filter = .ok (condition, bound)) :
    binding.Extends bound ∧ ∀ test, condition = some test → test.Typed type bound.groups := by
  cases filter with
  | none =>
      cases found
      exact ⟨.refl binding, by simp⟩
  | some filter =>
      rcases Outcome.bind_eq_ok.1 found with ⟨⟨test, last⟩, made, same⟩
      cases same
      rcases Condition.ofExpr_eq_ok made with ⟨grown, typed⟩
      refine ⟨grown, ?_⟩
      intro other same
      cases same
      exact typed

theorem bindAt_extends {path : Path}
    (found : bindAt label schema path binding = .ok (route, bound)) :
    binding.Extends bound := by
  induction path generalizing label schema binding route with
  | leaf filter =>
      rcases bindAt_leaf_eq_ok found with ⟨name, fields, first, -, made, -⟩ | ⟨kind, -, -, rfl, -⟩
      · exact (bindFilter_eq_ok made).1
      · exact .refl bound
  | step filter name next ih =>
      obtain ⟨recordName, fields, first, between, field, onward, -, made, -, further, -⟩ :=
        bindAt_step_eq_ok found
      exact (bindFilter_eq_ok made).1.trans (ih further)

/-- A WHERE bound to the leaves extends the binding too. -/
theorem BoundToLeaves.extends {where_ : Option Filter}
    (attached : BoundToLeaves route where_ middle condition bound) : middle.Extends bound := by
  rw [BoundToLeaves] at attached
  split at attached
  · exact (bindFilter_eq_ok attached).1
  · rcases attached with ⟨-, -, rfl⟩
    exact .refl bound

/-- A filter of typed conditions has an answer on every record that they can order. -/
theorem passes_of_typed {groups : List Group} {given : Fields}
    (typed : ∀ test, condition = some test → test.Typed type groups)
    (filled : arguments.Fills groups) (orders : type.Orders given) :
    ∃ passed, passes condition (.object given) arguments = .ok passed := by
  cases condition with
  | none => exact ⟨true, rfl⟩
  | some test => exact Condition.evaluate_of_typed (typed test rfl) filled orders

/-- A record that conforms to its schema is tested without a fault. -/
theorem calm_whenPassed {good : α → Prop} {groups : List Group} {name : String}
    {fields : List (String × Schema)} {value : Value} {next : Trail α}
    (typed : ∀ test, condition = some test → test.Typed ⟨name, fields⟩ groups)
    (filled : arguments.Fills groups) (present : value.isNull = false)
    (conforms : (Schema.record name fields).Conforms value) (calm : Trail.Calm good next) :
    Trail.Calm good (whenPassed arguments condition value next) := by
  rcases conforms.fields present with ⟨given, rfl⟩
  have admits : RecordType.Admits ⟨name, fields⟩ given := RecordType.admits_of_conforms conforms
  rcases passes_of_typed typed filled admits.orders with ⟨passed, tested⟩
  rw [whenPassed, present, tested]
  cases passed with
  | true => exact calm
  | false => exact .empty

/-! ## Routes -/

/-- Along a bound path, conforming values have conforming leaves. -/
theorem calm_trail {where_ : Option Filter} {path : Path} {groups : List Group} {value : Value}
    (found : bindAt label schema path binding = .ok (route, middle))
    (attached : BoundToLeaves route where_ middle condition bound)
    (early : middle.groups <+: groups) (late : bound.groups <+: groups)
    (filled : arguments.Fills groups) (conforms : schema.Conforms value) :
    ((attach? condition route).trail arguments value).Calm fun leaf =>
      leaf.isNull = false ∧ route.leafSchema.Conforms leaf := by
  induction path generalizing label schema binding route value with
  | leaf filter =>
      rcases bindAt_leaf_eq_ok found with
        ⟨name, fields, first, core, made, rfl⟩ | ⟨kind, core, rfl, rfl, rfl⟩
      · rw [BoundToLeaves, leafSchema_throughArrays, leafSchema, core] at attached
        rw [attach?_throughArrays, attach?_leaf, trail_throughArrays _ _ (trail_leaf ..),
          leafSchema_throughArrays, leafSchema, core]
        refine Schema.calm_spread conforms (fun record present fits => ?_)
        rw [core] at fits
        rw [trail_leaf, whenPassed_and?]
        refine calm_whenPassed ?_ filled present fits (calm_whenPassed ?_ filled present fits ?_)
        · exact fun test same => ((bindFilter_eq_ok made).2 test same).mono early
        · exact fun test same => ((bindFilter_eq_ok attached).2 test same).mono late
        · exact .one ⟨present, fits⟩
      · rw [BoundToLeaves, leafSchema_throughArrays, leafSchema, core] at attached
        rcases attached with ⟨rfl, rfl, -⟩
        rw [attach?, trail_throughArrays _ _ (trail_leaf ..), leafSchema_throughArrays, leafSchema]
        refine Schema.calm_spread conforms (fun scalar present fits => ?_)
        rw [trail_leaf, whenPassed, present]
        exact .one ⟨present, fits⟩
  | step filter name next ih =>
      obtain ⟨recordName, fields, first, between, field, onward, core, made, known, further, rfl⟩ :=
        bindAt_step_eq_ok found
      rw [BoundToLeaves, leafSchema_throughArrays, leafSchema] at attached
      rw [attach?_throughArrays, attach?_descend, trail_throughArrays _ _ (trail_descend ..),
        leafSchema_throughArrays, leafSchema]
      refine Schema.calm_spread conforms (fun record present fits => ?_)
      rw [core] at fits
      rw [trail_descend]
      have longer : between.groups <+: groups := (bindAt_extends further).groups.trans early
      refine calm_whenPassed ?_ filled present fits ?_
      · exact fun test same => ((bindFilter_eq_ok made).2 test same).mono longer
      · rcases fits.fields present with ⟨given, rfl⟩
        obtain ⟨item, read, inside⟩ :=
          Accessor.get_of_conforms (RecordType.mem_of_field? known) fits
        rw [whenPresent, read]
        cases item with
        | none => exact .empty
        | some item => exact ih further attached (inside item rfl).2

end Route

end RecordQuery
