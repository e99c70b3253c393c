import RecordQuery.Proofs.Condition.Unnumbered
import RecordQuery.Proofs.Query.Conforming

/-!
# Brackets and WHERE

The filter in the brackets behind the last name of a selector and the WHERE of the query both test
the leaves. The bracket is bound before the WHERE and tested before it, so a query may as well state
both in one WHERE, joined by AND. Where either is compiled, so is the other, and to the same query.
-/

namespace RecordQuery

open Sql (Expr)

/-! ## The filter of the leaves -/

namespace Path

/-- The filter at the last point. -/
def leafFilter : Path → Option Filter
  | .leaf filter => filter
  | .step _ _ next => next.leafFilter

/-- The path with another filter at its last point. -/
def withLeafFilter (filter : Option Filter) : Path → Path
  | .leaf _ => .leaf filter
  | .step own name next => .step own name (next.withLeafFilter filter)

@[simp] theorem names_withLeafFilter (filter : Option Filter) (path : Path) :
    (path.withLeafFilter filter).names = path.names := by
  induction path with
  | leaf own => rfl
  | step own name next ih => exact congrArg (name :: ·) ih

@[simp] theorem lastName?_withLeafFilter (filter : Option Filter) (path : Path) :
    (path.withLeafFilter filter).lastName? = path.lastName? := by
  rw [lastName?, lastName?, names_withLeafFilter]

end Path

namespace Route

/-- The filter of the values that the route produces. -/
def leafFilter : Route → Option Condition
  | .leaf _ _ filter => filter
  | .descend _ _ _ _ next | .each _ _ next => next.leafFilter

theorem leafFilter_throughArrays (label : String) (arrays : List Schema) (inner : Route) :
    (throughArrays label arrays inner).leafFilter = inner.leafFilter := by
  induction arrays with
  | nil => rfl
  | cons array rest ih => exact ih

/-- A path without a filter at its last point is bound to a route without one. -/
theorem leafFilter_bindAt {path : Path} {label : String} {schema : Schema}
    {binding bound : Binding} {route : Route}
    (found : bindAt label schema path binding = .ok (route, bound)) (bare : path.leafFilter = none) :
    route.leafFilter = none := by
  induction path generalizing label schema binding route with
  | leaf filter =>
      cases bare
      rcases bindAt_leaf_eq_ok found with ⟨name, fields, first, -, made, rfl⟩ | ⟨kind, -, -, -, rfl⟩
      · cases made
        rw [leafFilter_throughArrays, leafFilter]
      · rw [leafFilter_throughArrays, leafFilter]
  | step filter name next ih =>
      obtain ⟨recordName, fields, first, between, field, onward, -, -, -, further, rfl⟩ :=
        bindAt_step_eq_ok found
      rw [leafFilter_throughArrays, leafFilter]
      exact ih further bare

/-- Where the leaves have no filter, two conditions attached in turn are their conjunction. -/
theorem attach_attach {route : Route} (bare : route.leafFilter = none) (first second : Condition) :
    (route.attach first).attach second = route.attach (.and first second) := by
  induction route with
  | leaf label schema filter =>
      cases bare
      rfl
  | descend label schema filter field next ih =>
      exact congrArg (Route.descend label schema filter field) (ih bare)
  | each label schema next ih => exact congrArg (Route.each label schema) (ih bare)

/-! ## Restricting the leaves -/

/-- A route with one more filter on its leaves. Only records can be restricted. -/
def restrict (holder : String) (expr : Expr) (route : Route) (binding : Binding) :
    QueryResult (Route × Binding) :=
  match route.leafSchema.record? with
  | none => throw (.compile (.whereOnScalar route.leafSchema))
  | some type => do
      let (condition, binding) ← Condition.ofExpr ⟨type, false, holder⟩ expr binding
      return (route.attach condition, binding)

variable {holder : String} {expr : Expr}

theorem restrict_descend (label : String) (schema : Schema) (filter : Option Condition)
    (field : Accessor) (next : Route) (binding : Binding) :
    restrict holder expr (.descend label schema filter field next) binding = do
      let (next, binding) ← restrict holder expr next binding
      return (.descend label schema filter field next, binding) := by
  simp only [restrict, leafSchema]
  cases next.leafSchema.record? with
  | none => rfl
  | some type =>
      simp only
      cases Condition.ofExpr ⟨type, false, holder⟩ expr binding <;> rfl

theorem restrict_throughArrays (label : String) (arrays : List Schema) (inner : Route)
    (binding : Binding) :
    restrict holder expr (throughArrays label arrays inner) binding = do
      let (inner, binding) ← restrict holder expr inner binding
      return (throughArrays label arrays inner, binding) := by
  simp only [restrict, leafSchema_throughArrays]
  cases inner.leafSchema.record? with
  | none => rfl
  | some type =>
      simp only
      cases Condition.ofExpr ⟨type, false, holder⟩ expr binding with
      | error error => rfl
      | ok result =>
          have same := attach?_throughArrays (some result.1) label arrays inner
          exact congrArg (fun route => Except.ok (route, result.2)) same

/-- The filter of the last point is bound behind the rest of the path, to the leaves of its
route. -/
theorem bindAt_withLeafFilter {path : Path} (bare : path.leafFilter = none) (text : String)
    (label : String) (schema : Schema) (binding : Binding) :
    (bindAt label schema (path.withLeafFilter (some ⟨text, expr, holder⟩)) binding).toOption =
      (bindAt label schema path binding >>= fun (route, binding) =>
        restrict holder expr route binding).toOption := by
  induction path generalizing label schema binding with
  | leaf filter =>
      cases bare
      rw [Path.withLeafFilter, bindAt, bindAt]
      rcases schema.core_cases with ⟨kind, core⟩ | ⟨name, fields, core⟩
      · simp only [core]
        change none = (restrict holder expr (throughArrays ..) binding).toOption
        rw [restrict_throughArrays]
        rfl
      · simp only [core]
        change _ = (restrict holder expr (throughArrays ..) binding).toOption
        rw [restrict_throughArrays]
        simp only [bindFilter, restrict, leafSchema, Schema.record?, Schema.required]
        cases Condition.ofExpr ⟨⟨name, fields⟩, false, holder⟩ expr binding <;> rfl
  | step filter name next ih =>
      rw [Path.withLeafFilter, bindAt, bindAt]
      rcases schema.core_cases with ⟨kind, core⟩ | ⟨recordName, fields, core⟩
      · simp only [core]
        rfl
      · simp only [core]
        cases bindFilter ⟨recordName, fields⟩ binding filter with
        | error error => rfl
        | ok own =>
            simp only [Outcome.ok_bind]
            cases RecordType.field? ⟨recordName, fields⟩ name with
            | none => rfl
            | some field =>
                have behind := ih bare field.name field.schema own.2
                refine (Outcome.toOption_bind_congr behind fun _ => rfl).trans ?_
                dsimp only
                cases bindAt field.name field.schema next own.2 with
                | error error => rfl
                | ok onward =>
                    change _ = (restrict holder expr (throughArrays ..) onward.2).toOption
                    rw [restrict_throughArrays, restrict_descend]
                    simp only [Outcome.ok_bind]
                    cases restrict holder expr onward.1 onward.2 <;> rfl

theorem restrict_congr {first second : Expr} (same : first.unnumbered = second.unnumbered)
    (route : Route) (binding : Binding) :
    (restrict holder first route binding).toOption =
      (restrict holder second route binding).toOption := by
  cases known : route.leafSchema.record? with
  | none =>
      simp only [restrict, known]
  | some type =>
      simp only [restrict, known]
      exact Outcome.toOption_bind_congr (Condition.toOption_ofExpr_congr same binding) fun _ => rfl

/-- Two expressions that the leaves are restricted by in turn are joined by AND. The numbers of their
placeholders do not matter. -/
theorem restrict_restrict {route : Route} (bare : route.leafFilter = none)
    {first first' second second' : Expr} (same : first.unnumbered = first'.unnumbered)
    (same' : second.unnumbered = second'.unnumbered) (binding : Binding) :
    (restrict holder first route binding >>= fun (route, binding) =>
        restrict holder second route binding).toOption =
      (restrict holder (.binary .and first' second') route binding).toOption := by
  cases known : route.leafSchema.record? with
  | none => simp only [restrict, known]; rfl
  | some type =>
      have kept (condition : Condition) : (route.attach condition).leafSchema = route.leafSchema :=
        leafSchema_attach? (some condition) route
      simp only [restrict, known, Condition.ofExpr]
      rw [bind_assoc, bind_assoc]
      refine Outcome.toOption_bind_congr (Condition.toOption_ofExpr_congr same binding) fun one => ?_
      simp only [Outcome.pure_eq, Outcome.ok_bind, kept, known, bind_assoc]
      refine Outcome.toOption_bind_congr (Condition.toOption_ofExpr_congr same' one.2) fun two => ?_
      rw [attach_attach bare]

end Route

/-! ## Queries -/

namespace Query

theorem bindPath_eq_bind (root : Schema) (path : Path) (filter : Option Expr) :
    bindPath root path filter =
      (Route.bind root path .empty >>= fun (route, binding) =>
        match filter with
        | none => .ok (route, binding)
        | some expr => Route.restrict (path.lastName?.getD rootHolder) expr route binding) := by
  cases filter <;> rfl

variable {root : Schema} {path : Path} {last : String} {first first' second second' : Expr}

/-- A bracket behind the last name of a path is bound as the WHERE that states it. -/
theorem bindPath_bracket (bare : path.leafFilter = none) (named : path.lastName? = some last)
    (same : first.unnumbered = first'.unnumbered) (text : String) :
    (bindPath root (path.withLeafFilter (some ⟨text, first, last⟩)) none).toOption =
      (bindPath root path (some first')).toOption := by
  calc
    _ = (Route.bind root (path.withLeafFilter (some ⟨text, first, last⟩)) .empty).toOption := by
      rw [bindPath_eq_bind]
      exact congrArg Except.toOption (bind_pure _)
    _ = _ := Route.bindAt_withLeafFilter bare text root.text root .empty
    _ = (bindPath root path (some first')).toOption := by
      rw [bindPath_eq_bind, named]
      exact Outcome.toOption_bind_congr rfl fun bound => Route.restrict_congr same bound.1 bound.2

/-- A bracket and a WHERE are bound as the WHERE that states both. -/
theorem bindPath_bracket_where (bare : path.leafFilter = none)
    (named : path.lastName? = some last) (same : first.unnumbered = first'.unnumbered)
    (same' : second.unnumbered = second'.unnumbered) (text : String) :
    (bindPath root (path.withLeafFilter (some ⟨text, first, last⟩)) (some second)).toOption =
      (bindPath root path (some (.binary .and first' second'))).toOption := by
  rw [bindPath_eq_bind, bindPath_eq_bind, Path.lastName?_withLeafFilter, named]
  refine (Outcome.toOption_bind_congr
    (Route.bindAt_withLeafFilter bare text root.text root .empty) fun _ => rfl).trans ?_
  cases found : Route.bindAt root.text root path .empty with
  | error error =>
      simp only [Route.bind, found]
      rfl
  | ok bound =>
      simp only [Route.bind, found]
      exact Route.restrict_restrict (Route.leafFilter_bindAt found bare) same same' bound.2

/-- A path and a WHERE compiled into rows of a destination type, or of a type made up from the
column list. -/
def ofPath (root : Schema) (path : Path) (filter : Option Expr) (columns : List Sql.Column)
    (dest : Option RecordType) (limit : Option Nat) : QueryResult Query := do
  let (route, binding) ← bindPath root path filter
  let projection ← Projection.compile route.leafSchema columns dest
  return { route, projection, binding, limit }

/-- A SELECT is compiled from the path that its selector names. -/
theorem compile_eq_ofPath (sql : String) (root : Schema) (dest : Option RecordType) :
    compile sql root dest = (do
      let select ← Sql.parseSelect sql
      match select.source with
      | .nested _ => throw (.parse .nestedSelect)
      | .table selector =>
          let quoted := sql.toList[select.sourceOffset]? == some '\x60'
          let offset := if quoted then select.sourceOffset + 1 else select.sourceOffset
          let path ← Path.scan selector offset
          ofPath root path select.filter select.columns dest select.limit) := by
  rw [compile]
  refine bind_congr fun select => ?_
  cases named : select.source with
  | nested inner =>
      simp only [bindRoute, named]
      rfl
  | table selector => simp only [bindRoute, named, ofPath, bind_assoc]

/-- Two ways to compile a query succeed alike. The queries have the same binding, and on every root
value and with all arguments they count the same leaves, call visitors alike and give the same rows,
or fail with the same error. -/
structure RunAlike (one other : QueryResult Query) : Prop where
  succeed : one.isOk = other.isOk
  binding {query query' : Query} : one = .ok query → other = .ok query' →
    query.binding = query'.binding
  count {query query' : Query} : one = .ok query → other = .ok query' →
    query.count = query'.count
  visit {query query' : Query} : one = .ok query → other = .ok query' →
    ∀ (σ : Type) (value : Value) (args : List Value) (visitors : Route.Visitors σ),
      query.visit value args visitors = query'.visit value args visitors
  selectUpTo {query query' : Query} : one = .ok query → other = .ok query' →
    query.selectUpTo = query'.selectUpTo
  selectAll {query query' : Query} : one = .ok query → other = .ok query' →
    query.selectAll = query'.selectAll
  selectFirst {query query' : Query} : one = .ok query → other = .ok query' →
    query.selectFirst = query'.selectFirst

theorem RunAlike.of_toOption_eq {one other : QueryResult Query}
    (same : one.toOption = other.toOption) : RunAlike one other := by
  have equal {query query' : Query} (compiled : one = .ok query) (compiled' : other = .ok query') :
      query = query' := by
    rw [compiled, compiled'] at same
    exact Option.some.inj same
  constructor
  case succeed => cases one <;> cases other <;> first | rfl | cases same
  case visit =>
    intro query query' compiled compiled' σ value args visitors
    rw [equal compiled compiled']
  all_goals
    intro query query' compiled compiled'
    rw [equal compiled compiled']

/-- A bracket and a WHERE may be stated as one WHERE, joined by AND, and a bracket alone as a WHERE
of its own: the same routes and bindings are made of both, and the queries run alike. -/
theorem bracket_interchanges_where (bare : path.leafFilter = none)
    (named : path.lastName? = some last) (same : first.unnumbered = first'.unnumbered)
    (same' : second.unnumbered = second'.unnumbered) (text : String) :
    let bracketed := path.withLeafFilter (some ⟨text, first, last⟩)
    (∀ bound, bindPath root bracketed (some second) = .ok bound ↔
      bindPath root path (some (.binary .and first' second')) = .ok bound) ∧
    (∀ bound, bindPath root bracketed none = .ok bound ↔
      bindPath root path (some first') = .ok bound) ∧
    ∀ columns dest limit,
      RunAlike (ofPath root bracketed (some second) columns dest limit)
        (ofPath root path (some (.binary .and first' second')) columns dest limit) ∧
      RunAlike (ofPath root bracketed none columns dest limit)
        (ofPath root path (some first') columns dest limit) := by
  intro bracketed
  have both : (bindPath root bracketed (some second)).toOption =
      (bindPath root path (some (.binary .and first' second'))).toOption :=
    bindPath_bracket_where bare named same same' text
  have alone : (bindPath root bracketed none).toOption =
      (bindPath root path (some first')).toOption :=
    bindPath_bracket bare named same text
  refine ⟨fun bound => ?_, fun bound => ?_, fun columns dest limit => ⟨?_, ?_⟩⟩
  · rw [← Outcome.toOption_eq_some, ← Outcome.toOption_eq_some, both]
  · rw [← Outcome.toOption_eq_some, ← Outcome.toOption_eq_some, alone]
  · exact .of_toOption_eq (Outcome.toOption_bind_congr both fun _ => rfl)
  · exact .of_toOption_eq (Outcome.toOption_bind_congr alone fun _ => rfl)

/-- `/Items[Active]/Nodes[ID > ?]` with `WHERE Nodes.ID < ?`, and the WHERE that states both. -/
theorem bracket_interchanges_where_catalogue :
    ∃ bound,
      bindPath catalogue
        (activeNodes.withLeafFilter (some ⟨"ID > ?",
          .binary (.compare .gt) (.column "ID") (.placeholder 0), "Nodes"⟩))
        (some (.binary (.compare .lt) (.qualified "Nodes" "ID") (.placeholder 0))) = .ok bound ∧
      bindPath catalogue activeNodes
        (some (.binary .and (.binary (.compare .gt) (.column "ID") (.placeholder 0))
          (.binary (.compare .lt) (.qualified "Nodes" "ID") (.placeholder 1)))) = .ok bound ∧
      bound.2.placeholders = 2 := by
  refine ⟨_, rfl, ?_, rfl⟩
  exact ((@bracket_interchanges_where catalogue activeNodes _ _ _ _ _ rfl rfl rfl rfl
    "ID > ?").1 _).1 rfl

end Query

end RecordQuery
