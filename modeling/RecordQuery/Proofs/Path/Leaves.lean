import RecordQuery.Proofs.Route.Agreement
import RecordQuery.Proofs.Route.Binding
import RecordQuery.Query

/-!
# The leaves of a path

What a path finds in a value can be told from the schema and the steps alone, without a
route: optional layers are transparent, an array gives what its elements give, and a
record that passes the filter of its point gives what its field gives, or itself at the
end of the path. The main theorem identifies this reading with the walks of the route that
the path is bound to.
-/

namespace RecordQuery

variable {α : Type} {arguments : Arguments}

/-! ## Reading a path directly -/

/-- The trail of a value of a schema, told from its scalars and records. Null gives
nothing. -/
def Schema.spread (label : String) (core : Schema → Value → Trail α) : Schema → Value → Trail α
  | .optional inner, value => inner.spread label core value
  | .array element, value =>
      if value.isNull then .empty
      else .after (Route.elements label value) (.all (element.spread label core))
  | .scalar kind, value => if value.isNull then .empty else core (.scalar kind) value
  | .record name fields, value => if value.isNull then .empty else core (.record name fields) value

namespace Path

/-- The trail of a record that has to pass a filter, stated about records of a type. What
follows is bound behind the filter. -/
def tested (arguments : Arguments) (type : RecordType) (filter : Option Filter) (binding : Binding)
    (record : Value) (next : Binding → Trail α) : Trail α :=
  .after (Route.bindFilter type binding filter) fun (condition, binding) =>
    .after (Route.passes condition record arguments) fun passed =>
      if passed then next binding else .empty

/-- The leaves of a value of a schema along a path. A second filter, the WHERE of a query,
applies to the leaves behind the last filter of the path. -/
def leaves (arguments : Arguments) (where_ : Option Filter) :
    Path → String → Schema → Binding → Value → Trail Value
  | .leaf filter, label, schema, binding, value =>
      schema.spread label
        (fun core value =>
          match core with
          | .record name fields =>
              tested arguments ⟨name, fields⟩ filter binding value fun binding =>
                tested arguments ⟨name, fields⟩ where_ binding value fun _ => .one value
          | _ => .one value)
        value
  | .step filter name next, label, schema, binding, value =>
      schema.spread label
        (fun core value =>
          match core with
          | .record recordName fields =>
              tested arguments ⟨recordName, fields⟩ filter binding value fun binding =>
                match RecordType.field? ⟨recordName, fields⟩ name with
                | none => .empty
                | some field =>
                    .after (field.get value) fun found =>
                      match found with
                      | some item =>
                          next.leaves arguments where_ field.name field.schema binding item
                      | none => .empty
          | _ => .empty)
        value

end Path

/-- The WHERE of a query as a filter on the leaves of its path. -/
def Query.whereFilter (path : Path) (filter : Option Sql.Expr) : Option Filter :=
  filter.map fun expr => { text := "", expr, holder := path.lastName?.getD rootHolder }

/-- The leaves of a root value along a path with a WHERE. -/
def Query.leaves (root : Schema) (path : Path) (filter : Option Sql.Expr) (arguments : Arguments)
    (value : Value) : Trail Value :=
  path.leaves arguments (whereFilter path filter) root.text root .empty value

/-! ## Spreading -/

namespace Schema

/-- Only the values of the core count, and of those only the ones that are not null. -/
theorem spread_congr (label : String) {first second : Schema → Value → Trail α} (schema : Schema)
    (agree : ∀ value, value.isNull = false → first schema.core value = second schema.core value)
    (value : Value) : schema.spread label first value = schema.spread label second value := by
  induction schema using Schema.layers generalizing value with
  | optional inner ih => exact ih agree value
  | array element ih =>
      have same : element.spread label first = element.spread label second := funext (ih agree)
      rw [spread, spread, same]
  | scalar kind =>
      cases present : value.isNull with
      | true => simp [spread, present]
      | false => simpa [spread, present, core] using agree value present
  | record name fields =>
      cases present : value.isNull with
      | true => simp [spread, present]
      | false => simpa [spread, present, core] using agree value present

end Schema

namespace Route

/-- A route through arrays spreads the route of the core. -/
theorem trail_throughArrays (label : String) (inner : Route)
    (skips : inner.trail arguments .null = .empty) (schema : Schema) (value : Value) :
    (throughArrays label schema.arrays inner).trail arguments value =
      schema.spread label (fun _ => inner.trail arguments) value := by
  induction schema using Schema.layers generalizing value with
  | optional inner ih => exact ih value
  | array element ih =>
      have same : (throughArrays label element.arrays inner).trail arguments =
          element.spread label (fun _ => inner.trail arguments) := funext ih
      rw [throughArrays] at same
      rw [Schema.arrays, throughArrays, List.foldr_cons, trail_each, throughElements, Schema.spread,
        same]
  | scalar kind =>
      cases value <;> first | exact skips | rfl
  | record name fields =>
      cases value <;> first | exact skips | rfl

/-! ## Attaching a WHERE -/

/-- The route with the condition of a WHERE, where there is one. -/
def attach? (condition : Option Condition) (route : Route) : Route :=
  match condition with
  | some condition => route.attach condition
  | none => route

theorem attach?_leaf (condition : Option Condition) (label : String) (schema : Schema)
    (filter : Option Condition) :
    attach? condition (.leaf label schema filter) =
      .leaf label schema (Condition.and? filter condition) := by
  cases condition <;> cases filter <;> rfl

theorem attach?_descend (condition : Option Condition) (label : String) (schema : Schema)
    (filter : Option Condition) (field : Accessor) (next : Route) :
    attach? condition (.descend label schema filter field next) =
      .descend label schema filter field (attach? condition next) := by
  cases condition <;> rfl

theorem attach?_throughArrays (condition : Option Condition) (label : String)
    (arrays : List Schema) (inner : Route) :
    attach? condition (throughArrays label arrays inner) =
      throughArrays label arrays (attach? condition inner) := by
  cases condition with
  | none => rfl
  | some condition =>
      induction arrays with
      | nil => rfl
      | cons array rest ih => exact congrArg (Route.each label array) ih

theorem leafSchema_throughArrays (label : String) (arrays : List Schema) (inner : Route) :
    (throughArrays label arrays inner).leafSchema = inner.leafSchema := by
  induction arrays with
  | nil => rfl
  | cons array rest ih => exact ih

/-- Both conditions are tested in turn, the second only where the first holds. -/
theorem whenPassed_and? (first second : Option Condition) (value : Value) (next : Trail α) :
    whenPassed arguments (Condition.and? first second) value next =
      whenPassed arguments first value (whenPassed arguments second value next) := by
  cases present : value.isNull with
  | true => simp [whenPassed, present]
  | false =>
      cases first with
      | none => cases second <;> simp [whenPassed, present, passes, Condition.and?]
      | some first =>
          cases second with
          | none => simp [whenPassed, present, passes, Condition.and?]
          | some second =>
              simp only [whenPassed, present, passes, Condition.and?, Condition.evaluate]
              cases first.evaluate value arguments with
              | error error => rfl
              | ok passed => cases passed <;> rfl

/-- A bound filter is tested as its condition is. -/
theorem tested_eq_whenPassed {type : RecordType} {filter : Option Filter} {binding bound : Binding}
    {condition : Option Condition} {record : Value} {next : Binding → Trail α}
    (found : bindFilter type binding filter = .ok (condition, bound))
    (present : record.isNull = false) :
    Path.tested arguments type filter binding record next =
      whenPassed arguments condition record (next bound) := by
  simp [Path.tested, found, whenPassed, present]

/-! ## A bound path finds the leaves of the path -/

/-- A WHERE is bound to the leaves of a route: to their type, or not at all where they are
scalars. -/
def BoundToLeaves (route : Route) (where_ : Option Filter) (binding : Binding)
    (condition : Option Condition) (bound : Binding) : Prop :=
  match route.leafSchema.record? with
  | some type => bindFilter type binding where_ = .ok (condition, bound)
  | none => where_ = none ∧ condition = none ∧ bound = binding

theorem trail_eq_leaves {where_ : Option Filter} {path : Path} {label : String} {schema : Schema}
    {binding middle bound : Binding} {route : Route} {condition : Option Condition}
    (found : bindAt label schema path binding = .ok (route, middle))
    (attached : BoundToLeaves route where_ middle condition bound) (value : Value) :
    (attach? condition route).trail arguments value =
      path.leaves arguments where_ label schema binding value := by
  induction path generalizing label schema binding route value with
  | leaf filter =>
      rcases bindAt_leaf_eq_ok found with
        ⟨name, fields, first, core, made, rfl⟩ | ⟨kind, core, rfl, rfl, rfl⟩
      · rw [BoundToLeaves, leafSchema_throughArrays, leafSchema, core] at attached
        rw [attach?_throughArrays, attach?_leaf, trail_throughArrays _ _ (trail_leaf ..),
          Path.leaves]
        refine Schema.spread_congr label schema (fun record present => ?_) value
        simp only [core, trail_leaf, whenPassed_and?]
        rw [tested_eq_whenPassed made present, tested_eq_whenPassed attached present]
      · rw [BoundToLeaves, leafSchema_throughArrays, leafSchema, core] at attached
        rcases attached with ⟨rfl, rfl, -⟩
        rw [attach?, trail_throughArrays _ _ (trail_leaf ..), Path.leaves]
        refine Schema.spread_congr label schema (fun scalar present => ?_) value
        rw [core, trail_leaf]
        simp [whenPassed, present, passes]
  | step filter name next ih =>
      obtain ⟨recordName, fields, first, between, field, onward, core, made, known, further, rfl⟩ :=
        bindAt_step_eq_ok found
      rw [BoundToLeaves, leafSchema_throughArrays, leafSchema] at attached
      rw [attach?_throughArrays, attach?_descend, trail_throughArrays _ _ (trail_descend ..),
        Path.leaves]
      refine Schema.spread_congr label schema (fun record present => ?_) value
      simp only [core, trail_descend, tested_eq_whenPassed made present, known]
      congr 2
      funext item
      exact ih further attached item

end Route

end RecordQuery
