import RecordQuery.Proofs.Path.Walks
import RecordQuery.Proofs.Projection.Compiled
import RecordQuery.Proofs.Route.Conforming

/-!
# Queries on conforming values

Compiling a query checks all that its run relies on: routes fit the schema of the root
values, conditions are typed, and copies join fields of fitting schemas. So a compiled
query runs without a fault on every root value that conforms to its schema, with all
arguments that its binding accepts.
-/

namespace RecordQuery

variable {σ : Type} {arguments : Arguments}

/-! ## The schema of the leaves -/

namespace Schema

theorem Distinct.core {schema : Schema} (distinct : schema.Distinct) : schema.core.Distinct := by
  induction distinct with
  | scalar kind => exact .scalar kind
  | optional _ ih => exact ih
  | array _ ih => exact ih
  | record names each _ => exact .record names each

end Schema

namespace Route

theorem leafSchema_attach? (condition : Option Condition) (route : Route) :
    (attach? condition route).leafSchema = route.leafSchema := by
  cases condition with
  | none => rfl
  | some condition =>
      induction route with
      | leaf label schema filter => rfl
      | descend label schema filter field next ih => exact ih
      | each label schema next ih => exact ih

theorem distinct_leafSchema {label : String} {schema : Schema} {path : Path}
    {binding bound : Binding} {route : Route}
    (found : bindAt label schema path binding = .ok (route, bound)) (distinct : schema.Distinct) :
    route.leafSchema.Distinct := by
  induction path generalizing label schema binding bound route with
  | leaf filter =>
      rcases bindAt_leaf_eq_ok found with ⟨name, fields, first, -, -, rfl⟩ | ⟨kind, -, -, -, rfl⟩
      · rw [leafSchema_throughArrays]
        exact distinct.core
      · rw [leafSchema_throughArrays]
        exact distinct.core
  | step filter name next ih =>
      obtain ⟨recordName, fields, first, between, field, onward, core, -, known, further, rfl⟩ :=
        bindAt_step_eq_ok found
      rw [leafSchema_throughArrays]
      change onward.leafSchema.Distinct
      have inner := distinct.core
      rw [core] at inner
      cases inner with
      | record _ each => exact ih further (each _ (RecordType.mem_of_field? known))

end Route

/-! ## Projecting and visiting calm trails -/

namespace RowBuffer

/-- A buffer takes leaves without a fault as long as a property of rows carries over from
each row to the next. -/
theorem follow_of_carried {projection : Projection} {good : Value → Prop} {leaves : List Value}
    {buffer : RowBuffer}
    (step : ∀ leaf ∈ leaves, ∀ row, good row →
      ∃ after, projection.apply leaf row = (after, .ok ()) ∧ good after)
    (template : good buffer.template) (rows : ∀ row ∈ buffer.newest, good row) :
    ∃ last, follow projection ⟨leaves, none⟩ buffer = .ok last := by
  change ∃ last, fill projection none leaves buffer = .ok last
  induction leaves generalizing buffer with
  | nil =>
      cases full : buffer.isFull <;> exact ⟨buffer, by simp [fill, full]⟩
  | cons leaf rest ih =>
      rw [fill]
      split
      · exact ⟨buffer, rfl⟩
      · have slot : good buffer.slot.1 ∧ ∀ row ∈ buffer.slot.2, good row := by
          rw [RowBuffer.slot]
          split
          · rename_i row older newest
            rw [newest] at rows
            split
            · exact ⟨rows row List.mem_cons_self,
                fun other old => rows other (List.mem_cons_of_mem _ old)⟩
            · exact ⟨template, rows⟩
          · exact ⟨template, by simp⟩
        rcases step leaf List.mem_cons_self _ slot.1 with ⟨after, applied, kept⟩
        have added : buffer.add projection leaf = .ok (buffer.write after) := by
          rw [add, applied]
          rfl
        rw [added]
        refine ih (fun other member => step other (List.mem_cons_of_mem _ member)) template ?_
        intro row member
        rcases List.mem_cons.1 member with rfl | old
        · exact kept
        · exact slot.2 row old

end RowBuffer

namespace Route

/-- Visitors whose callbacks never fail. -/
structure Visitors.Calm (visitors : Visitors σ) : Prop where
  leaf : ∀ visit, visitors.leaf = some visit →
    ∀ value state, ((visit value).run.run state).1 = .ok ()
  record : ∀ visit, visitors.record = some visit →
    ∀ route value state, ((visit route value).run.run state).1 = .ok ()

/-- Such visitors see a walk without a fault to its end. -/
theorem visit_of_calm {visitors : Visitors σ} (calm : visitors.Calm) {route : Route} {value : Value}
    (fault : (route.trail arguments value).fault = none) (state : σ) :
    ((route.visit arguments visitors value).run.run state).1 = .ok () := by
  have call (event : Event) (state : σ) : ((visitors.call event).run.run state).1 = .ok () := by
    cases event with
    | leaf value =>
        rw [Visitors.call, Visitors.onLeaf]
        cases known : visitors.leaf with
        | none => rfl
        | some visit => exact calm.leaf visit known value state
    | record route value =>
        rw [Visitors.call, Visitors.onRecord]
        cases known : visitors.record with
        | none => rfl
        | some visit => exact calm.record visit known route value state
  have run (event : Event) (state : σ) : (visitors.call event).run.run state =
      (.ok (), ((visitors.call event).run.run state).2) := by
    rw [← call event state]
    rfl
  have fault : (route.events arguments value).fault = none := fault
  rw [visit_eq_play, Trail.run_play run, Trail.result, fault]
  rfl

end Route

/-! ## Compiled queries -/

namespace Query

variable {sql : String} {root : Schema} {dest : Option RecordType} {query : Query}

/-- What compiling a query takes: a path and a WHERE are bound to the root schema, and the
columns are compiled for the leaves. -/
theorem compile_eq_ok (compiled : compile sql root dest = .ok query) :
    ∃ path filter columns, bindPath root path filter = .ok (query.route, query.binding) ∧
      Projection.compile query.route.leafSchema columns dest = .ok query.projection := by
  rcases Outcome.bind_eq_ok.1 compiled with ⟨select, -, compiled⟩
  rcases Outcome.bind_eq_ok.1 compiled with ⟨⟨route, binding⟩, bound, compiled⟩
  rcases Outcome.bind_eq_ok.1 compiled with ⟨projection, made, same⟩
  cases same
  rw [bindRoute] at bound
  split at bound
  · cases bound
  · rcases Outcome.bind_eq_ok.1 bound with ⟨path, -, bound⟩
    exact ⟨path, select.filter, select.columns, bound, made⟩

/-- The leaves of a compiled query in a conforming value are found without a fault, and
conform. -/
theorem calm_trail {path : Path} {filter : Option Sql.Expr} {route : Route} {binding : Binding}
    (found : bindPath root path filter = .ok (route, binding)) {args : List Value}
    (expanded : binding.expand args = .ok arguments) {value : Value}
    (conforms : root.Conforms value) :
    (route.trail arguments value).Calm fun leaf =>
      leaf.isNull = false ∧ route.leafSchema.Conforms leaf := by
  rcases bindPath_eq_ok found with ⟨inner, middle, condition, walked, attached, rfl⟩
  have walk : Binding.empty.Extends middle := Route.bindAt_extends walked
  have ordered : binding.Ordered := attached.extends.ordered (walk.ordered Binding.ordered_empty)
  rw [Route.leafSchema_attach?]
  exact Route.calm_trail walked attached attached.extends.groups List.prefix_rfl
    (Binding.fills_of_expand ordered expanded) conforms

theorem distinct_leafSchema {path : Path} {filter : Option Sql.Expr} {route : Route}
    {binding : Binding} (found : bindPath root path filter = .ok (route, binding))
    (distinct : root.Distinct) : route.leafSchema.Distinct := by
  rcases bindPath_eq_ok found with ⟨inner, middle, condition, walked, -, rfl⟩
  rw [Route.leafSchema_attach?]
  exact Route.distinct_leafSchema walked distinct

/-- Selecting from a conforming value never fails, under any limit. -/
theorem selectUpTo_of_conforms (compiled : compile sql root dest = .ok query)
    (distinct : root.Distinct) (distinctDest : ∀ type, dest = some type → type.schema.Distinct)
    {value : Value} (conforms : root.Conforms value) {args : List Value}
    (expanded : query.binding.expand args = .ok arguments) (limit : Option Nat) :
    ∃ rows, query.selectUpTo limit value args = .ok rows := by
  rcases compile_eq_ok compiled with ⟨path, filter, columns, found, made⟩
  have leafDistinct := distinct_leafSchema found distinct
  have calm := calm_trail found expanded conforms
  have counted : ∃ count, query.route.count arguments value = .ok count := by
    rw [Route.count_eq_length, Trail.result, calm.fault]
    exact ⟨_, rfl⟩
  have projected : ∃ last, query.route.project arguments query.projection value
      (.start query.projection.template query.projection.aggregate limit) = .ok last := by
    have template := Projection.holds_template made leafDistinct distinctDest
    have same :
        query.route.trail arguments value = ⟨(query.route.trail arguments value).items, none⟩ := by
      rw [← calm.fault]
    rw [Route.project_eq_follow, same]
    refine RowBuffer.follow_of_carried ?_ template (by simp [RowBuffer.start])
    intro leaf member row holds
    rcases calm.items leaf member with ⟨present, fits⟩
    exact Projection.apply_of_holds made leafDistinct distinctDest present fits holds
  rcases counted with ⟨count, counted⟩
  rcases projected with ⟨last, projected⟩
  rw [selectUpTo, expanded]
  simp only [Outcome.ok_bind, counted, projected]
  cases query.projection.aggregate <;> exact ⟨last.finish, rfl⟩

/-- A compiled query runs without a fault on every value that conforms to its root schema,
with all arguments that it accepts: its rows, its first row and its count are there, and
visitors that never fail see the walk to its end. -/
theorem runs_of_conforms (compiled : compile sql root dest = .ok query) (distinct : root.Distinct)
    (distinctDest : ∀ type, dest = some type → type.schema.Distinct) {value : Value}
    (conforms : root.Conforms value) {args : List Value}
    (expanded : query.binding.expand args = .ok arguments) :
    (∃ rows, query.selectAll value args = .ok rows) ∧
    (∃ first, query.selectFirst value args = .ok first) ∧
    (∃ count, query.count value args = .ok count) ∧
    ∀ (σ : Type) (visitors : Route.Visitors σ) (state : σ), visitors.Calm →
      ((query.visit value args visitors).run.run state).1 = .ok () := by
  have selected := selectUpTo_of_conforms compiled distinct distinctDest conforms expanded
  rcases compile_eq_ok compiled with ⟨path, filter, columns, found, -⟩
  have calm := calm_trail found expanded conforms
  refine ⟨selected query.limit, ?_, ?_, ?_⟩
  · rcases selected (some (query.limit.elim 1 (min 1))) with ⟨rows, selected⟩
    rw [selectFirst, selected]
    exact ⟨rows.head?, rfl⟩
  · rw [count, expanded, Outcome.ok_bind, Route.count_eq_length, Trail.result, calm.fault]
    exact ⟨_, rfl⟩
  · intro σ visitors state still
    rw [visit, expanded]
    exact Route.visit_of_calm still calm.fault state

theorem distinct_catalogue : catalogue.Distinct := by
  have node : (Schema.record "Node" [("ID", .scalar .int)]).Distinct :=
    .record (by decide) (by simpa using .scalar .int)
  have item : (Schema.record "Item" [("Active", .scalar .bool),
      ("Nodes", .array (.record "Node" [("ID", .scalar .int)]))]).Distinct := by
    refine .record (by decide) ?_
    simpa using ⟨.scalar .bool, .array node⟩
  exact .record (by decide) (by simpa using .array (.optional item))

theorem conforms_item (active : Bool) (nodes : List Int64) :
    (Schema.record "Item" [("Active", .scalar .bool),
      ("Nodes", .array (.record "Node" [("ID", .scalar .int)]))]).Conforms (item active nodes) := by
  apply Schema.Conforms.record
  intro field member value found
  rcases List.mem_cons.1 member with rfl | member
  · cases found
    exact .scalar rfl
  · cases List.mem_singleton.1 member
    cases found
    apply Schema.Conforms.array
    intro node inside
    rcases List.mem_map.1 inside with ⟨number, -, rfl⟩
    apply Schema.Conforms.record
    intro field member value found
    cases List.mem_singleton.1 member
    cases found
    exact .scalar rfl

/-- A catalogue with a missing item, asked for the nodes behind an argument. -/
theorem runs_of_conforms_catalogue :
    ∃ query arguments,
      compile "SELECT ID AS Number FROM `/Items[Active]/Nodes` WHERE Nodes.ID > ?" catalogue none =
        .ok query ∧
      query.binding.expand [.ofInt64 1] = .ok arguments ∧
      ∃ rows, query.selectAll
        (.object [("Items", .array [item true [1, 2], .null, item false [3]])]) [.ofInt64 1] =
          .ok rows := by
  have accepted : (do
      let query ← compile "SELECT ID AS Number FROM `/Items[Active]/Nodes` WHERE Nodes.ID > ?"
        catalogue none
      query.binding.expand [.ofInt64 1]).isOk = true := by
    decide +kernel
  rcases Outcome.exists_of_isOk accepted with ⟨arguments, accepted⟩
  rcases Outcome.bind_eq_ok.1 accepted with ⟨query, compiled, expanded⟩
  refine ⟨query, arguments, compiled, expanded, ?_⟩
  refine (runs_of_conforms compiled distinct_catalogue (by simp) ?_ expanded).1
  apply Schema.Conforms.record
  intro field member value found
  cases List.mem_singleton.1 member
  cases found
  apply Schema.Conforms.array
  intro value inside
  apply Schema.Conforms.optional
  rcases List.mem_cons.1 inside with rfl | inside
  · exact conforms_item true [1, 2]
  · rcases List.mem_cons.1 inside with rfl | inside
    · exact .null _
    · cases List.mem_singleton.1 inside
      exact conforms_item false [3]

end Query

end RecordQuery
