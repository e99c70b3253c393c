import Mathlib.Algebra.GroupWithZero.Nat
import RecordQuery.Proofs.Condition.Demands
import RecordQuery.Proofs.Path.Leaves

/-!
# The arguments of a path

The filters of a path take the arguments of a run one filter after the other, and the WHERE takes
those that are left. So the leaves of a path can be told from the arguments alone: each placeholder
of a filter means the argument at its place, counted from those that the filters before it have
taken. What is demanded of an argument is told from the path and its schema.
-/

namespace RecordQuery

variable {α : Type} {arguments : Arguments}

/-- The argument at a place behind those that are taken; null behind the last one. -/
def argumentBehind (args : List Value) (taken index : Nat) : Value := args.getD (taken + index) .null

theorem map_argumentBehind {args : List Value} {taken count : Nat}
    (enough : taken + count ≤ args.length) :
    (List.range count).map (argumentBehind args taken) <+: args.drop taken := by
  refine List.prefix_iff_getElem?.2 fun index inside => ?_
  rw [List.length_map, List.length_range] at inside
  rw [List.getElem?_drop, List.getElem_map, List.getElem_range, argumentBehind,
    List.getD_eq_getElem?_getD, List.getElem?_eq_getElem (by omega)]
  rfl

/-- How many placeholders a filter has, if there is one. -/
def Filter.count (filter : Option Filter) : Nat := filter.elim 0 (·.expr.placeholders.length)

/-- The placeholders of a filter are numbered from zero in the order of the text. -/
def Filter.Numbered (filter : Filter) : Prop :=
  filter.expr.placeholders = List.range filter.expr.placeholders.length

theorem Filter.Numbered.of_eq_range {filter : Filter} {count : Nat}
    (same : filter.expr.placeholders = List.range count) : filter.Numbered := by
  rw [Filter.Numbered, same, List.length_range]

namespace Path

/-- The filters of a path, the first point first. -/
def filters : Path → List Filter
  | .leaf filter => filter.toList
  | .step filter _ next => filter.toList ++ next.filters

/-- The trail of a record that has to pass a filter, whose placeholders mean the arguments behind
those that are taken. -/
def testedBy (args : List Value) (type : RecordType) (filter : Option Filter) (taken : Nat)
    (record : Value) (next : Trail α) : Trail α :=
  match filter with
  | none => next
  | some filter =>
      .after (Scope.test ⟨type, false, filter.holder⟩ (argumentBehind args taken) record filter.expr)
        fun passed => if passed then next else .empty

/-- What a filter demands of the arguments behind those that are taken. -/
def filterDemands (type : RecordType) (filter : Option Filter) (taken : Nat) : List Demand :=
  filter.elim [] fun filter =>
    (Scope.demands ⟨type, false, filter.holder⟩ filter.expr).map (.behind taken)

/-- What a path in values of a schema demands of the arguments behind those that are taken: its
filters in their order, and then the WHERE. -/
def demands (where_ : Option Filter) : Path → Schema → Nat → List Demand
  | .leaf filter, schema, taken =>
      match schema.core with
      | .record name fields =>
          filterDemands ⟨name, fields⟩ filter taken ++
            filterDemands ⟨name, fields⟩ where_ (taken + Filter.count filter)
      | _ => []
  | .step filter name next, schema, taken =>
      match schema.core with
      | .record recordName fields =>
          filterDemands ⟨recordName, fields⟩ filter taken ++
            match RecordType.field? ⟨recordName, fields⟩ name with
            | some field => next.demands where_ field.schema (taken + Filter.count filter)
            | none => []
      | _ => []

/-- The leaves of a value of a schema along a path, told from the arguments behind those that are
taken. A second filter, the WHERE of a query, applies to the leaves behind the last filter of the
path. -/
def read (args : List Value) (where_ : Option Filter) :
    Path → String → Schema → Nat → Value → Trail Value
  | .leaf filter, label, schema, taken, value =>
      schema.spread label
        (fun core value =>
          match core with
          | .record name fields =>
              testedBy args ⟨name, fields⟩ filter taken value <|
                testedBy args ⟨name, fields⟩ where_ (taken + Filter.count filter) value (.one value)
          | _ => .one value)
        value
  | .step filter name next, label, schema, taken, value =>
      schema.spread label
        (fun core value =>
          match core with
          | .record recordName fields =>
              testedBy args ⟨recordName, fields⟩ filter taken value <|
                match RecordType.field? ⟨recordName, fields⟩ name with
                | none => .empty
                | some field =>
                    .after (field.get value) fun found =>
                      match found with
                      | some item =>
                          next.read args where_ field.name field.schema
                            (taken + Filter.count filter) item
                      | none => .empty
          | _ => .empty)
        value

end Path

/-! ## Filters of a path -/

namespace Route

variable {type : RecordType} {binding middle bound final : Binding} {condition : Option Condition}
  {args : List Value} {filter where_ : Option Filter}

/-- A bound filter takes as many arguments as it has placeholders. -/
theorem startOf_bindFilter (found : bindFilter type binding filter = .ok (condition, bound)) :
    binding.StartOf bound ∧ bound.placeholders = binding.placeholders + Filter.count filter := by
  cases filter with
  | none =>
      cases found
      exact ⟨.refl _, rfl⟩
  | some filter =>
      rcases Outcome.bind_eq_ok.1 found with ⟨⟨test, last⟩, made, same⟩
      cases same
      have states := Condition.states_of_ofExpr made
      exact ⟨states.start, states.count⟩

/-- A filter tests records by the arguments at its places. -/
theorem tested_eq_testedBy (found : bindFilter type binding filter = .ok (condition, bound))
    (numbered : ∀ given, filter = some given → given.Numbered) (start : bound.StartOf final)
    (ordered : final.Ordered) (expanded : final.expand args = .ok arguments) (record : Value)
    (next : Binding → Trail α) :
    Path.tested arguments type filter binding record next =
      Path.testedBy args type filter binding.placeholders record (next bound) := by
  cases filter with
  | none =>
      cases found
      rfl
  | some filter =>
      have made := found
      rcases Outcome.bind_eq_ok.1 found with ⟨⟨test, last⟩, compiled, same⟩
      cases same
      have states := Condition.states_of_ofExpr compiled
      have enough : binding.placeholders + filter.expr.placeholders.length ≤ args.length := by
        rw [(Binding.expand_eq_ok ordered expanded).1, ← states.count]
        exact start.placeholders
      have placed := map_argumentBehind enough
      rw [← numbered filter rfl] at placed
      have tests := states.same start ordered expanded _ placed record
      rw [Path.tested, made, Trail.after_ok, Path.testedBy, ← tests]
      rfl

/-- A bound filter adds its demands. -/
theorem adds_of_bindFilter (found : bindFilter type binding filter = .ok (condition, bound))
    (numbered : ∀ given, filter = some given → given.Numbered) :
    binding.Adds bound (Path.filterDemands type filter binding.placeholders) := by
  cases filter with
  | none =>
      cases found
      exact .refl binding
  | some filter =>
      rcases Outcome.bind_eq_ok.1 found with ⟨⟨test, last⟩, made, same⟩
      cases same
      rcases Condition.addsFor_of_ofExpr made with ⟨indices, adds⟩
      have own := indices.trans (numbered filter rfl)
      rw [← indices, List.length_map] at own
      rw [Demand.placed_eq_map_behind own] at adds
      exact adds

/-! ## Paths -/

/-- A bound path takes as many arguments as its filters have placeholders. -/
theorem startOf_bindAt {path : Path} {label : String} {schema : Schema} {route : Route}
    (found : bindAt label schema path binding = .ok (route, bound)) :
    binding.StartOf bound ∧
      bound.placeholders =
        binding.placeholders + (path.filters.map (·.expr.placeholders.length)).sum := by
  have same (filter : Option Filter) :
      Filter.count filter = (filter.toList.map (·.expr.placeholders.length)).sum := by
    cases filter <;> rfl
  induction path generalizing label schema binding route with
  | leaf filter =>
      rcases bindAt_leaf_eq_ok found with
        ⟨name, fields, first, -, made, -⟩ | ⟨kind, -, rfl, rfl, -⟩
      · rcases startOf_bindFilter made with ⟨start, count⟩
        exact ⟨start, same filter ▸ count⟩
      · exact ⟨.refl _, rfl⟩
  | step filter name next ih =>
      obtain ⟨recordName, fields, first, between, field, onward, -, made, -, further, -⟩ :=
        bindAt_step_eq_ok found
      rcases startOf_bindFilter made with ⟨start, count⟩
      rcases ih further with ⟨startBehind, countBehind⟩
      refine ⟨start.trans startBehind, ?_⟩
      rw [countBehind, count, same, Path.filters, List.map_append, List.sum_append, Nat.add_assoc]

/-- The WHERE takes the arguments behind those of the path. -/
theorem BoundToLeaves.startOf {route : Route}
    (attached : BoundToLeaves route where_ middle condition bound) :
    middle.StartOf bound ∧ bound.placeholders = middle.placeholders + Filter.count where_ := by
  rw [BoundToLeaves] at attached
  split at attached
  · exact startOf_bindFilter attached
  · rcases attached with ⟨rfl, -, rfl⟩
    exact ⟨.refl _, rfl⟩

/-- A bound path with its WHERE adds its demands. -/
theorem adds_of_bindAt {path : Path} {label : String} {schema : Schema} {route : Route}
    (found : bindAt label schema path binding = .ok (route, middle))
    (attached : BoundToLeaves route where_ middle condition bound)
    (numbered : ∀ filter ∈ path.filters, filter.Numbered)
    (numberedWhere : ∀ given, where_ = some given → given.Numbered) :
    binding.Adds bound (path.demands where_ schema binding.placeholders) := by
  induction path generalizing label schema binding route with
  | leaf filter =>
      rw [Path.demands]
      rcases bindAt_leaf_eq_ok found with
        ⟨name, fields, first, core, made, rfl⟩ | ⟨kind, core, rfl, rfl, rfl⟩
      · rw [BoundToLeaves, leafSchema_throughArrays, leafSchema, core] at attached
        have own (given : Filter) (here : filter = some given) : given.Numbered :=
          numbered given (by simp [Path.filters, here])
        simp only [core]
        rw [← (startOf_bindFilter made).2]
        exact (adds_of_bindFilter made own).trans (adds_of_bindFilter attached numberedWhere)
      · rw [BoundToLeaves, leafSchema_throughArrays, leafSchema, core] at attached
        rcases attached with ⟨-, -, rfl⟩
        simp only [core]
        exact .refl _
  | step filter name next ih =>
      obtain ⟨recordName, fields, first, between, field, onward, core, made, known, further, rfl⟩ :=
        bindAt_step_eq_ok found
      rw [BoundToLeaves, leafSchema_throughArrays, leafSchema] at attached
      have own (given : Filter) (here : filter = some given) : given.Numbered :=
        numbered given (by simp [Path.filters, here])
      have behind (given : Filter) (here : given ∈ next.filters) : given.Numbered :=
        numbered given (by simp [Path.filters, here])
      rw [Path.demands]
      simp only [core, known]
      rw [← (startOf_bindFilter made).2]
      exact (adds_of_bindFilter made own).trans (ih further attached behind)

/-- The leaves of a path are those that the arguments tell, place by place. -/
theorem leaves_eq_read {path : Path} {label : String} {schema : Schema} {route : Route}
    (found : bindAt label schema path binding = .ok (route, middle))
    (attached : BoundToLeaves route where_ middle condition bound)
    (numbered : ∀ filter ∈ path.filters, filter.Numbered)
    (numberedWhere : ∀ given, where_ = some given → given.Numbered)
    (start : bound.StartOf final) (ordered : final.Ordered)
    (expanded : final.expand args = .ok arguments) (value : Value) :
    path.leaves arguments where_ label schema binding value =
      path.read args where_ label schema binding.placeholders value := by
  have startMiddle : middle.StartOf final := attached.startOf.1.trans start
  induction path generalizing label schema binding route value with
  | leaf filter =>
      rw [Path.leaves, Path.read]
      refine Schema.spread_congr label schema (fun record present => ?_) value
      rcases bindAt_leaf_eq_ok found with
        ⟨name, fields, first, core, made, rfl⟩ | ⟨kind, core, rfl, rfl, rfl⟩
      · rw [BoundToLeaves, leafSchema_throughArrays, leafSchema, core] at attached
        have own (given : Filter) (here : filter = some given) : given.Numbered :=
          numbered given (by simp [Path.filters, here])
        simp only [core]
        rw [tested_eq_testedBy made own startMiddle ordered expanded,
          tested_eq_testedBy attached numberedWhere start ordered expanded,
          (startOf_bindFilter made).2]
      · simp only [core]
  | step filter name next ih =>
      obtain ⟨recordName, fields, first, between, field, onward, core, made, known, further, rfl⟩ :=
        bindAt_step_eq_ok found
      rw [BoundToLeaves, leafSchema_throughArrays, leafSchema] at attached
      rw [Path.leaves, Path.read]
      refine Schema.spread_congr label schema (fun record present => ?_) value
      have own (given : Filter) (here : filter = some given) : given.Numbered :=
        numbered given (by simp [Path.filters, here])
      have behind (given : Filter) (here : given ∈ next.filters) : given.Numbered :=
        numbered given (by simp [Path.filters, here])
      have startBetween := (startOf_bindAt further).1.trans startMiddle
      simp only [core, known]
      rw [tested_eq_testedBy made own startBetween ordered expanded]
      congr 2
      funext found
      cases found with
      | none => rfl
      | some item =>
          dsimp only
          rw [ih further attached behind item, (startOf_bindFilter made).2]

end Route

end RecordQuery
