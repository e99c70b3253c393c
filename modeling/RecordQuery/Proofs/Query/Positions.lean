import RecordQuery.Proofs.Path.Positions
import RecordQuery.Proofs.Query.Faults
import RecordQuery.Proofs.Query.Select
import RecordQuery.Proofs.Route.Conforming
import RecordQuery.Proofs.Sql.Placeholders
import RecordQuery.Table.Statement

/-!
# The arguments of a query

A query asks for one argument for each placeholder of its text: those of the filters of its
selector from left to right, then those of its WHERE. Each placeholder is compared with the
argument at its place and with no other, as a value of the kind of the field that it is compared
with. A run fails at once with any other number of arguments, or at the first argument that cannot
be such a value; with all others it finds what the arguments tell.
-/

namespace RecordQuery

/-! ## Filters of a selector -/

/-- The condition of a filter is the one that its text holds. -/
def Filter.OfText (filter : Filter) : Prop :=
  ∃ offset, Sql.parseCriteria filter.text offset = .ok filter.expr

namespace Path

open Sql (Cursor)

variable {selector name : String} {here : Cursor}

theorem ofText_of_scanFilter {filter : Option Filter}
    {after : { after : Cursor // after.rest.length ≤ here.rest.length }}
    (found : scanFilter selector name here = .ok (filter, after)) :
    ∀ given ∈ filter, given.OfText := by
  rcases here with ⟨_ | ⟨c, inner⟩, position⟩
  · cases found
    simp
  · by_cases bracket : c = '['
    · subst bracket
      simp only [scanFilter] at found
      split at found
      · cases found
      · rcases Outcome.bind_eq_ok.1 found with ⟨expr, parsed, same⟩
        cases same
        intro given here
        cases here
        exact ⟨_, parsed⟩
    · have none : ∃ after, scanFilter selector name ⟨c :: inner, position⟩ = .ok (none, after) := by
        refine ⟨⟨_, Nat.le_refl _⟩, ?_⟩
        unfold scanFilter
        simp [bracket]
      rcases none with ⟨_, none⟩
      rw [none] at found
      cases found
      simp

/-- Every filter behind a point holds the condition of its text, if that of the point does. -/
theorem ofText_of_scanSteps {filter : Option Filter} {start last : Cursor} {path : Path}
    (found : scanSteps selector filter start = .ok (path, last))
    (first : ∀ given ∈ filter, given.OfText) :
    ∀ given ∈ path.filters, given.OfText := by
  have ends {filter : Option Filter} (own : ∀ given ∈ filter, given.OfText) :
      ∀ given ∈ (Path.leaf filter).filters, given.OfText := by
    simpa [filters] using own
  have steps {filter : Option Filter} {onward : Path} (own : ∀ given ∈ filter, given.OfText)
      (behind : ∀ given ∈ onward.filters, given.OfText) (name : String) :
      ∀ given ∈ (Path.step filter name onward).filters, given.OfText := by
    intro given here
    rcases List.mem_append.1 here with here | here
    · exact own given (by simpa using here)
    · exact behind given here
  fun_induction scanSteps selector filter start generalizing path last with
  | case1 filter start done =>
      cases found
      exact ends first
  | case2 filter start tail line =>
      cases found
      exact ends first
  | case3 filter start here c tail _ line word name =>
      rename_i behind ih
      rcases Outcome.bind_eq_ok.1 found with ⟨⟨next, filtered, within⟩, scanned, found⟩
      have own := ofText_of_scanFilter scanned
      dsimp only at found
      split at found
      · rename_i rest slash
        split at found
        · cases found
        · rcases Outcome.bind_eq_ok.1 found with ⟨⟨onward, final⟩, further, same⟩
          cases same
          exact steps first (ih next filtered within rest slash further own) name
      · cases found
        exact steps first (ends own) name
      · cases found
        exact steps first (ends own) name
      · cases found
  | case4 => cases found

/-- Every filter of a scanned path holds the condition of its text. -/
theorem ofText_of_scan {offset : Nat} {path : Path} (found : scan selector offset = .ok path) :
    ∀ given ∈ path.filters, given.OfText := by
  rcases Outcome.bind_eq_ok.1 found with ⟨⟨scanned, last⟩, steps, found⟩
  dsimp only at found
  split at found
  · cases found
    exact ofText_of_scanSteps steps nofun
  · cases found

end Path

/-! ## Columns without placeholders -/

/-- Columns that make up rows hold no placeholders. -/
theorem Projection.placeholders_of_copies {source row made : RecordType} {dest : Option RecordType}
    {columns : List Sql.Column} {copies : List ColumnCopy}
    (found : Projection.copies source dest row columns = .ok (copies, made)) :
    Sql.columnPlaceholders columns = [] := by
  induction columns generalizing row copies with
  | nil => rfl
  | cons column rest ih =>
      rcases Outcome.bind_eq_ok.1 found with ⟨wanted, named, found⟩
      have own : column.placeholders = [] := by
        rw [ColumnSource.ofColumn.eq_def] at named
        split at named
        · rfl
        · split at named
          · cases named
          · split at named
            · rfl
            · rfl
            · cases named
            · cases named
        · cases named
        · cases named
      dsimp only at found
      split at found
      · cases found
      · rcases Outcome.bind_eq_ok.1 found with ⟨⟨target, grown⟩, -, found⟩
        rcases Outcome.bind_eq_ok.1 found with ⟨copy, -, found⟩
        rcases Outcome.bind_eq_ok.1 found with ⟨⟨others, last⟩, copied, same⟩
        cases same
        rw [Sql.columnPlaceholders, List.flatMap_cons, own]
        exact ih copied

theorem Projection.placeholders_of_compile {source : Schema} {columns : List Sql.Column}
    {dest : Option RecordType} {projection : Projection}
    (found : Projection.compile source columns dest = .ok projection) :
    Sql.columnPlaceholders columns = [] := by
  rw [Projection.compile] at found
  split at found
  · rename_i star
    split at found
    · cases found
    · rename_i short
      rcases List.any_eq_true.1 star with ⟨column, inside, isStar⟩
      cases column <;> cases isStar
      have one : columns.length = 1 := by
        have := List.length_pos_of_mem inside
        omega
      rcases List.length_eq_one_iff.1 one with ⟨only, rfl⟩
      cases List.mem_singleton.1 inside
      rfl
  · split at found
    · cases found
    · rcases Outcome.bind_eq_ok.1 found with ⟨⟨copies, made⟩, copied, -⟩
      exact placeholders_of_copies copied

/-! ## Compiled queries -/

namespace Query

variable {sql : String} {root : Schema} {dest : Option RecordType} {query : Query}
  {args : List Value} {path : Path} {filter : Option Sql.Expr}

/-- The selector of a compiled query is scanned, and its path and the WHERE are bound. -/
theorem exists_path_of_compile (compiled : compile sql root dest = .ok query) :
    ∃ select selector path, Sql.parseSelect sql = .ok select ∧ select.source = .table selector ∧
      Path.scan selector (selectorOffset sql select) = .ok path ∧
      bindPath root path select.filter = .ok (query.route, query.binding) ∧
      Sql.columnPlaceholders select.columns = [] := by
  rcases Outcome.bind_eq_ok.1 compiled with ⟨select, parsed, compiled⟩
  rcases Outcome.bind_eq_ok.1 compiled with ⟨⟨route, binding⟩, bound, compiled⟩
  rcases Outcome.bind_eq_ok.1 compiled with ⟨projection, made, same⟩
  cases same
  rw [bindRoute] at bound
  split at bound
  · cases bound
  · rename_i selector source
    rcases Outcome.bind_eq_ok.1 bound with ⟨path, scanned, bound⟩
    exact ⟨select, selector, path, parsed, source, scanned, bound,
      Projection.placeholders_of_compile made⟩

/-! ## Runs with arguments -/

/-- Every run on a value fails with an error at once, and calls no visitor. -/
structure FailsWith (query : Query) (args : List Value) (value : Value) (error : QueryError) :
    Prop where
  all : query.selectAll value args = .error error
  first : query.selectFirst value args = .error error
  count : query.count value args = .error error
  visit : ∀ (σ : Type) (visitors : Route.Visitors σ) (state : σ),
    (query.visit value args visitors).run.run state = (.error error, state)

/-- Every run on a value is about the same leaves: they are counted, projected under any limit, and
handed to visitors. -/
structure Finds (query : Query) (args : List Value) (value : Value) (found : Trail Value) :
    Prop where
  count : query.count value args = List.length <$> found.result
  rows : ∀ limit, query.selectUpTo limit value args = (do
    if !query.projection.aggregate then
      let _ ← found.result
    let start := RowBuffer.start query.projection.template query.projection.aggregate limit
    return (← start.follow query.projection found).finish)
  visit : ∀ (σ : Type) (leaf : Value → σ → σ) (record : Option (Route → Value → σ → σ)) (state : σ),
    let (outcome, _, noted) := (query.visit value args (.noting leaf record)).run.run (state, [])
    outcome = (fun _ => ()) <$> found.result ∧ noted = found.items

/-- Where the arguments do not expand, nothing is looked at. -/
theorem failsWith_of_expand {error : QueryError}
    (refused : query.binding.expand args = .error error) (value : Value) :
    query.FailsWith args value error where
  all := by
    rw [selectAll, selectUpTo, refused]
    rfl
  first := by
    rw [selectFirst, selectUpTo, refused]
    rfl
  count := by
    rw [count, refused]
    rfl
  visit _ _ _ := by
    rw [visit, refused]
    rfl

/-- With the arguments of a run expanded, the walks of a query find what the arguments tell. -/
theorem trail_eq_read (bound : bindPath root path filter = .ok (query.route, query.binding))
    (numbered : ∀ given ∈ path.filters, given.Numbered)
    (numberedWhere : ∀ given, whereFilter path filter = some given → given.Numbered)
    {arguments : Arguments} (expanded : query.binding.expand args = .ok arguments) (value : Value) :
    query.route.trail arguments value =
      path.read args (whereFilter path filter) root.text root 0 value := by
  rcases bindPath_eq_ok bound with ⟨inner, middle, condition, walked, attached, -⟩
  have ordered : query.binding.Ordered :=
    attached.extends.ordered ((Route.bindAt_extends walked).ordered Binding.ordered_empty)
  rw [trail_of_bindPath bound value]
  exact Route.leaves_eq_read walked attached numbered numberedWhere (.refl _) ordered expanded value

/-- A query asks for the arguments of its filters and of its WHERE. -/
theorem placeholders_of_bindPath
    (bound : bindPath root path filter = .ok (query.route, query.binding)) :
    query.binding.placeholders =
      (path.filters.map (·.expr.placeholders.length)).sum +
        (Sql.filterPlaceholders filter).length := by
  rcases bindPath_eq_ok bound with ⟨inner, middle, condition, walked, attached, -⟩
  have where_ :
      Filter.count (whereFilter path filter) = (Sql.filterPlaceholders filter).length := by
    cases filter <;> rfl
  rw [attached.startOf.2, (Route.startOf_bindAt walked).2, where_]
  exact congrArg (· + _) (Nat.zero_add _)

/-- What the arguments tell is what every run finds. -/
theorem finds_of_expand {found : Trail Value} {arguments : Arguments} {value : Value}
    (expanded : query.binding.expand args = .ok arguments)
    (same : query.route.trail arguments value = found) : query.Finds args value found where
  count := by
    rw [count, expanded, ← same]
    exact Route.count_eq_length query.route value
  rows limit := by
    rw [selectUpTo, expanded, Outcome.ok_bind, ← same]
    simp only [Route.count_eq_length, Route.project_eq_follow]
    cases query.projection.aggregate <;> cases (query.route.trail arguments value).result <;> rfl
  visit σ leaf record state := by
    rw [visit, expanded, ← same]
    exact Route.run_visit_noting leaf record query.route value state

/-- The demands of a query are those of its filters and of its WHERE. -/
theorem adds_of_bindPath (bound : bindPath root path filter = .ok (query.route, query.binding))
    (numbered : ∀ given ∈ path.filters, given.Numbered)
    (numberedWhere : ∀ given, whereFilter path filter = some given → given.Numbered) :
    Binding.empty.Adds query.binding (path.demands (whereFilter path filter) root 0) := by
  rcases bindPath_eq_ok bound with ⟨inner, middle, condition, walked, attached, -⟩
  exact Route.adds_of_bindAt walked attached numbered numberedWhere

/-! ## Places of the placeholders -/

/-- The placeholders of a filter of a selector are those of its text, from zero on. -/
theorem placeholders_of_scan {selector : String} {offset : Nat} {path : Path}
    (scanned : Path.scan selector offset = .ok path) (filter : Filter)
    (here : filter ∈ path.filters) :
    filter.expr.placeholders = List.range (Sql.placeholdersIn filter.text) := by
  rcases Path.ofText_of_scan scanned filter here with ⟨offset, parsed⟩
  exact Sql.placeholders_of_parseCriteria parsed

/-- Behind columns without placeholders, those of a condition are the ones behind its `WHERE`, from
zero on. -/
theorem placeholders_of_filter {selector : String} {select : Sql.Select}
    (parsed : Sql.parseSelect sql = .ok select) (source : select.source = .table selector)
    (columns : Sql.columnPlaceholders select.columns = []) :
    Sql.filterPlaceholders select.filter = List.range (Sql.placeholdersBehindWhere sql) := by
  rcases Sql.placeholders_of_table parsed source with ⟨listed, same, behind⟩
  rw [columns] at same
  cases List.range_eq_nil.1 same.symm
  rw [behind, List.range_eq_range']

/-- The filters of a path and its WHERE ask for as many arguments as their texts hold
placeholders. -/
theorem placeholders_of_texts {count : Nat}
    (bound : bindPath root path filter = .ok (query.route, query.binding))
    (texts : ∀ given ∈ path.filters,
      given.expr.placeholders = List.range (Sql.placeholdersIn given.text))
    (whereText : Sql.filterPlaceholders filter = List.range count) :
    query.binding.placeholders = (path.filters.map (Sql.placeholdersIn ·.text)).sum + count := by
  have each : path.filters.map (·.expr.placeholders.length) =
      path.filters.map (Sql.placeholdersIn ·.text) := by
    refine List.map_congr_left fun given here => ?_
    rw [texts given here, List.length_range]
  rw [placeholders_of_bindPath bound, each, whereText, List.length_range]

theorem numbered_whereFilter {count : Nat}
    (whereText : Sql.filterPlaceholders filter = List.range count) (given : Filter)
    (here : whereFilter path filter = some given) : given.Numbered := by
  rcases Option.map_eq_some_iff.1 here with ⟨expr, known, rfl⟩
  rw [known] at whereText
  exact .of_eq_range whereText

/-- The arguments of a compiled query. It asks for one for each placeholder of its selector and of
its WHERE: those of the filters from left to right, then those of the WHERE, each in the order of
its text. Each placeholder demands the argument at its place, as a value of the kind of the field
that it is compared with. With as many arguments, every run fails at once with the refusal of the
first demand that is not met; if all are met, every run finds what the path tells with each
placeholder meaning the argument at its place. With any other number every run fails at once. -/
theorem arguments_by_position {sql : String} {root : Schema} {dest : Option RecordType}
    {query : Query} (compiled : compile sql root dest = .ok query) :
    ∃ select selector path, Sql.parseSelect sql = .ok select ∧ select.source = .table selector ∧
      Path.scan selector (selectorOffset sql select) = .ok path ∧
      query.binding.placeholders =
        (path.filters.map (Sql.placeholdersIn ·.text)).sum + Sql.placeholdersBehindWhere sql ∧
      (∀ filter ∈ path.filters,
        filter.expr.placeholders = List.range (Sql.placeholdersIn filter.text)) ∧
      Sql.filterPlaceholders select.filter = List.range (Sql.placeholdersBehindWhere sql) ∧
      let where_ := whereFilter path select.filter
      let demands := path.demands where_ root 0
      demands.map Demand.place = List.range query.binding.placeholders ∧
      (∀ args value, args.length = query.binding.placeholders →
        match demands.findSome? (·.refusal? args) with
        | some error => query.FailsWith args value error
        | none => query.Finds args value (path.read args where_ root.text root 0 value)) ∧
      ∀ args value, args.length ≠ query.binding.placeholders →
        query.FailsWith args value
          (.compile (.argumentCount query.binding.placeholders args.length)) := by
  rcases exists_path_of_compile compiled with
    ⟨select, selector, path, parsed, source, scanned, bound, columns⟩
  have texts := placeholders_of_scan scanned
  have whereText := placeholders_of_filter parsed source columns
  have count := placeholders_of_texts bound texts whereText
  have numbered (given : Filter) (here : given ∈ path.filters) : given.Numbered :=
    .of_eq_range (texts given here)
  have numberedWhere (given : Filter) (here : whereFilter path select.filter = some given) :
      given.Numbered := numbered_whereFilter whereText given here
  rcases (adds_of_bindPath bound numbered numberedWhere).of_empty with ⟨all, places⟩
  refine ⟨select, selector, path, parsed, source, scanned, count, texts, whereText, places, ?_,
    fun args value other => failsWith_of_expand (if_pos other) value⟩
  intro args value enough
  rw [← all, ← Binding.error?_expand enough]
  cases expanded : query.binding.expand args with
  | error error => exact failsWith_of_expand expanded value
  | ok arguments =>
      exact finds_of_expand expanded (trail_eq_read bound numbered numberedWhere expanded value)

/-! A filter and a WHERE with a placeholder each: the items with the first argument are asked for
their nodes behind the second. -/

def nodesAsked : String := "SELECT ID FROM `/Items[Active = ?]/Nodes` WHERE Nodes.ID > ?"

def threeItems : Value :=
  .object [("Items", .array [item true [1, 2], .null, item false [3], item true [4]])]

theorem arguments_by_position_catalogue :
    ∃ query, compile nodesAsked catalogue none = .ok query ∧ query.binding.placeholders = 2 ∧
      query.count threeItems [.bool true, .ofInt64 1] = .ok 2 ∧
      (∀ value, query.FailsWith [.ofInt64 1, .bool true] value
        (.compile (.invalidArgument "Active" (.ofInt64 1) .bool))) ∧
      ∀ value, query.FailsWith [.bool true] value (.compile (.argumentCount 2 1)) := by
  have accepted : (compile nodesAsked catalogue none).isOk = true := by decide +kernel
  have told : (do
      let select ← Sql.parseSelect nodesAsked
      let path ← Path.scan (select.table?.getD "") (selectorOffset nodesAsked select)
      let where_ := whereFilter path select.filter
      let leaves ← (path.read [.bool true, .ofInt64 1] where_ catalogue.text catalogue 0
        threeItems).result
      return (path.demands where_ catalogue 0, leaves.length) :
        QueryResult (List Demand × Nat)).toOption =
      some ([⟨0, "Active", .bool⟩, ⟨1, "ID", .int⟩], 2) := by
    decide +kernel
  rcases Outcome.exists_of_isOk accepted with ⟨query, found⟩
  obtain ⟨select, selector, path, parsed, source, scanned, -, -, -, places, enough, others⟩ :=
    arguments_by_position found
  have told := Outcome.toOption_eq_some.1 told
  rw [parsed, Outcome.ok_bind, Sql.Select.table?, source] at told
  rcases Outcome.bind_eq_ok.1 told with ⟨_, same, told⟩
  cases scanned.symm.trans same
  rcases Outcome.bind_eq_ok.1 told with ⟨leaves, read, told⟩
  rcases Prod.mk.inj (Except.ok.inj told) with ⟨demands, length⟩
  have count : 2 = query.binding.placeholders := by
    have both := congrArg List.length places
    rwa [demands, List.length_range] at both
  rw [demands] at enough
  refine ⟨query, found, count.symm, ?_, fun value => ?_, fun value => ?_⟩
  · have finds : query.Finds _ _ _ := enough [.bool true, .ofInt64 1] threeItems count
    rw [finds.count, read, ← length]
    rfl
  · exact enough [.ofInt64 1, .bool true] value count
  · rw [count]
    exact others [.bool true] value (by rw [← count]; decide)

end Query

end RecordQuery
