import RecordQuery.Proofs.Path.Leaves
import RecordQuery.Proofs.Route.Rows

/-!
# Walks of a bound path

Once a path and a WHERE are bound to a root schema, the number of leaves, the leaves
handed to a visitor and the leaves projected into rows are told by the path alone.
-/

namespace RecordQuery

variable {α σ : Type} {arguments : Arguments}

/-! ## Callbacks that never fail -/

namespace Trail

/-- Callbacks that never fail change a state item by item. What the trail ends with is the
only failure. -/
theorem run_play {call : α → ExceptT QueryError (StateM σ) Unit} {step : σ → α → σ}
    (calm : ∀ item state, (call item).run.run state = (.ok (), step state item)) (trail : Trail α)
    (state : σ) :
    (trail.play call).run.run state =
      ((fun _ => ()) <$> trail.result, trail.items.foldl step state) := by
  rcases trail with ⟨items, fault⟩
  induction items generalizing state with
  | nil => cases fault <;> rfl
  | cons item rest ih =>
      have split : (Trail.mk (item :: rest) fault).play call =
          (do call item; (Trail.mk rest fault).play call) := by
        simp [play]
      rw [split, ExceptT.run_bind, StateT.run_bind, calm]
      exact (ih (step state item)).trans (by cases fault <;> rfl)

end Trail

namespace Route

/-- Visitors that never fail. Besides what they do to a state of their own, the leaves
handed to them are noted in order. -/
def Visitors.noting (leaf : Value → σ → σ) (record : Option (Route → Value → σ → σ)) :
    Visitors (σ × List Value) where
  leaf := some fun value => modify fun (state, noted) => (leaf value state, noted ++ [value])
  record := record.map fun change route value =>
    modify fun (state, noted) => (change route value state, noted)

/-- What such visitors make of their state at one event. -/
def Visitors.noted (leaf : Value → σ → σ) (record : Option (Route → Value → σ → σ)) :
    σ × List Value → Event → σ × List Value
  | (state, noted), .record route value =>
      (record.elim state fun change => change route value state, noted)
  | (state, noted), .leaf value => (leaf value state, noted ++ [value])

/-- Such visitors note the leaves of a walk, whatever they do otherwise. -/
theorem run_visit_noting (leaf : Value → σ → σ) (record : Option (Route → Value → σ → σ))
    (route : Route) (value : Value) (state : σ) :
    let (outcome, _, noted) :=
      (route.visit arguments (.noting leaf record) value).run.run (state, [])
    outcome = (fun _ => ()) <$> (route.trail arguments value).result ∧
      noted = (route.trail arguments value).items := by
  have calm (event : Event) (state : σ × List Value) :
      ((Visitors.noting leaf record).call event).run.run state =
        (.ok (), Visitors.noted leaf record state event) := by
    cases event with
    | leaf value => rfl
    | record route value => cases record <;> rfl
  have noted (events : List Event) (state : σ × List Value) :
      (events.foldl (Visitors.noted leaf record) state).2 =
        state.2 ++ events.filterMap Event.leaf? := by
    induction events generalizing state with
    | nil => simp
    | cons event rest ih =>
        rw [List.foldl_cons, ih]
        cases event <;> simp [Visitors.noted, Event.leaf?, List.filterMap_cons]
  rw [visit_eq_play, Trail.run_play calm]
  refine ⟨?_, noted _ _⟩
  simp only [trail, Trail.result, Trail.filterMap]
  cases (route.events arguments value).fault <;> rfl

end Route

/-! ## The walks of a path -/

namespace Query

/-- What binding a path with a WHERE takes: the path is bound first, then the WHERE to its
leaves. -/
theorem bindPath_eq_ok {root : Schema} {path : Path} {filter : Option Sql.Expr} {route : Route}
    {binding : Binding} (found : bindPath root path filter = .ok (route, binding)) :
    ∃ inner middle condition, Route.bind root path .empty = .ok (inner, middle) ∧
      Route.BoundToLeaves inner (whereFilter path filter) middle condition binding ∧
      route = Route.attach? condition inner := by
  rcases Outcome.bind_eq_ok.1 found with ⟨⟨inner, middle⟩, walked, found⟩
  cases filter with
  | none =>
      cases found
      refine ⟨route, binding, none, walked, ?_, rfl⟩
      cases known : route.leafSchema.record? <;>
        simp [Route.BoundToLeaves, known, whereFilter, Route.bindFilter]
  | some expr =>
      cases known : inner.leafSchema.record? with
      | none =>
          simp only [known] at found
          cases found
      | some type =>
          simp only [known] at found
          rcases Outcome.bind_eq_ok.1 found with ⟨⟨condition, last⟩, made, same⟩
          cases same
          refine ⟨inner, middle, some condition, walked, ?_, rfl⟩
          simp [Route.BoundToLeaves, known, whereFilter, Route.bindFilter, made]

/-- The walk of a bound path finds the leaves of the path. -/
theorem trail_of_bindPath {root : Schema} {path : Path} {filter : Option Sql.Expr} {route : Route}
    {binding : Binding} (found : bindPath root path filter = .ok (route, binding)) (value : Value) :
    route.trail arguments value = leaves root path filter arguments value := by
  rcases bindPath_eq_ok found with ⟨inner, middle, condition, walked, attached, rfl⟩
  exact Route.trail_eq_leaves walked attached value

/-- Counting, visiting and projecting agree with the leaves of the path: they are counted,
handed to visitors and projected in the same order, and each walk fails exactly when they
do and with the same error. Visitors and projections that fail themselves are left
aside. -/
theorem walks_agree {root : Schema} {path : Path} {filter : Option Sql.Expr} {route : Route}
    {binding : Binding} (found : bindPath root path filter = .ok (route, binding))
    (arguments : Arguments) (value : Value) :
    let found := leaves root path filter arguments value
    route.count arguments value = List.length <$> found.result ∧
    (∀ (σ : Type) (leaf : Value → σ → σ) (record : Option (Route → Value → σ → σ)) (state : σ),
      let (outcome, _, noted) :=
        (route.visit arguments (.noting leaf record) value).run.run (state, [])
      outcome = (fun _ => ()) <$> found.result ∧ noted = found.items) ∧
    (∀ (projection : Projection) (buffer : RowBuffer), buffer.limit = none →
      route.project arguments projection value buffer = (do
        let last ← found.items.foldlM (RowBuffer.add projection) buffer
        let _ ← found.result
        return last)) ∧
    ∀ (projection : Projection) (template : Value),
      (∀ leaf ∈ found.items, (projection.apply leaf template).2 = .ok ()) →
      RowBuffer.finish <$> route.project arguments projection value (.start template false none) =
        (List.map fun leaf => (projection.apply leaf template).1) <$> found.result := by
  intro leaves
  have same : route.trail arguments value = leaves := trail_of_bindPath found value
  have projected (projection : Projection) (buffer : RowBuffer) (unlimited : buffer.limit = none) :
      route.project arguments projection value buffer = (do
        let last ← leaves.items.foldlM (RowBuffer.add projection) buffer
        let _ ← leaves.result
        return last) := by
    rw [Route.project_eq_follow, same, RowBuffer.follow_of_unlimited leaves unlimited]
  refine ⟨?_, ?_, projected, ?_⟩
  · rw [Route.count_eq_length, same]
  · intro σ leaf record state
    rw [← same]
    exact Route.run_visit_noting leaf record route value state
  · intro projection template calm
    rw [projected projection (.start template false none) rfl,
      RowBuffer.foldlM_add_of_separate leaves.items rfl]
    simp only [RowBuffer.start, Projection.mapM_rowOf calm, Trail.result]
    cases leaves.fault with
    | none => simp [RowBuffer.finish]
    | some error => rfl

/-! A catalogue of items, of which the active ones are asked for their nodes. -/

def catalogue : Schema :=
  .record "Catalogue" [("Items", .array (.optional (.record "Item"
    [("Active", .scalar .bool), ("Nodes", .array (.record "Node" [("ID", .scalar .int)]))])))]

/-- `/Items[Active]/Nodes` -/
def activeNodes : Path :=
  .step none "Items" (.step (some ⟨"Active", .column "Active", "Items"⟩) "Nodes" (.leaf none))

/-- `Nodes.ID > 1` -/
def behindFirst : Sql.Expr := .binary (.compare .gt) (.qualified "Nodes" "ID") (.integer 1)

def item (active : Bool) (nodes : List Int64) : Value :=
  .object [("Active", .bool active),
    ("Nodes", .array (nodes.map fun number => .object [("ID", .ofInt64 number)]))]

theorem walks_agree_catalogue :
    ∃ route binding,
      bindPath catalogue activeNodes (some behindFirst) = .ok (route, binding) ∧
      route.count .empty
        (.object [("Items", .array [item true [1, 2], .null, item false [3], item true [4]])]) =
          .ok 2 := by
  refine ⟨_, _, rfl, ?_⟩
  exact (walks_agree (rfl : bindPath catalogue activeNodes (some behindFirst) = _) .empty _).1

end Query

end RecordQuery
