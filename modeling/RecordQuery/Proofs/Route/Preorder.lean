import RecordQuery.Proofs.Route.Events

/-!
# Walks in preorder

A walk comes to points, which are values at places of a route. The points form a tree: the value of
a field lies below a record, the elements lie below an array. An address tells the way down to a
point. A walk goes through the tree depth first, so it comes to points in the lexicographic order of
their addresses, and it ends at the first point that fails.
-/

namespace RecordQuery

/-- A value at a place of a route. -/
structure Point where
  route : Route
  value : Value

namespace Point

variable {arguments : Arguments} {point child last : Point} {children : List Point}

/-! ## The tree of points -/

/-- What a walk meets at a point, apart from what lies below it. -/
def events (point : Point) : List Event :=
  match point.route with
  | .leaf .. =>
      (if point.value.isObject then [.record point.route point.value] else []) ++
        [.leaf point.value]
  | .descend .. => [.record point.route point.value]
  | .each .. => []

/-- The points directly below a point, in order. -/
def below (point : Point) : QueryResult (List Point) :=
  match point.route with
  | .leaf .. => .ok []
  | .descend _ _ _ field next => do
      let found ← field.get point.value
      return found.toList.map (⟨next, ·⟩)
  | .each label _ next => do
      let items ← Route.elements label point.value
      return items.map (⟨next, ·⟩)

/-- A walk goes on from values that are not null and pass the filter. -/
def IsOpen (arguments : Arguments) (point : Point) : Prop :=
  point.value.isNull = false ∧
    Route.passes point.route.filter point.value arguments = .ok true

/-- A walk fails where the filter does, or where a point that it goes on from has not the form that
its route is for. -/
def Fails (arguments : Arguments) (point : Point) (error : QueryError) : Prop :=
  point.value.isNull = false ∧
    (Route.passes point.route.filter point.value arguments = .error error ∨
      Route.passes point.route.filter point.value arguments = .ok true ∧
        point.below = .error error)

/-- A walk from a point comes to the last one by an address, which numbers the points to go to at
each point on the way. -/
inductive Reaches (arguments : Arguments) : Point → List Nat → Point → Prop where
  | here (point : Point) : Reaches arguments point [] point
  | step {point child last : Point} {children : List Point} {index : Nat} {address : List Nat}
      (through : point.IsOpen arguments) (below : point.below = .ok children)
      (chosen : children[index]? = some child) (behind : Reaches arguments child address last) :
      Reaches arguments point (index :: address) last

/-! ## Preorder -/

/-- Points and their addresses, and the address and error of a failure, are those of a walk through
the points that are reached. It comes to all open points in the order of their addresses, up to the
first point that fails. -/
structure InPreorder (arguments : Arguments) (reached : List Nat → Point → Prop)
    (points : List (List Nat × Point)) (stop : Option (List Nat × QueryError)) : Prop where
  sorted : points.Pairwise fun one other => one.1 < other.1
  member : ∀ address point, (address, point) ∈ points ↔
    reached address point ∧ point.IsOpen arguments ∧ ∀ found ∈ stop, ¬ found.1 < address
  fails : ∀ found ∈ stop, ∃ point, reached found.1 point ∧ point.Fails arguments found.2
  first : ∀ address point error, reached address point → point.Fails arguments error →
    ∃ found ∈ stop, ¬ address < found.1

variable {reached first second : List Nat → Point → Prop} {points others : List (List Nat × Point)}
  {stop : Option (List Nat × QueryError)} {found : List Nat × QueryError}

/-- A walk through the points below one of the points that lie side by side. -/
theorem InPreorder.under (walk : InPreorder arguments reached points stop) (index : Nat) :
    InPreorder arguments (fun address point => ∃ tail, address = index :: tail ∧ reached tail point)
      (points.map (Prod.map (index :: ·) id)) (stop.map (Prod.map (index :: ·) id)) where
  sorted := by
    rw [List.pairwise_map]
    refine walk.sorted.imp fun less => ?_
    simpa using less
  member := by
    intro address point
    constructor
    · intro member
      rcases List.mem_map.1 member with ⟨⟨tail, point⟩, inside, same⟩
      cases same
      rcases (walk.member tail point).1 inside with ⟨arrived, through, early⟩
      refine ⟨⟨tail, rfl, arrived⟩, through, fun found member => ?_⟩
      rcases Option.map_eq_some_iff.1 member with ⟨own, inside, rfl⟩
      simpa using early own inside
    · rintro ⟨⟨tail, rfl, arrived⟩, through, early⟩
      refine List.mem_map.2 ⟨(tail, point), (walk.member tail point).2 ⟨arrived, through, ?_⟩, rfl⟩
      intro found member
      simpa using early _ (Option.mem_map_of_mem _ member)
  fails := by
    intro found member
    rcases Option.map_eq_some_iff.1 member with ⟨own, inside, rfl⟩
    rcases walk.fails own inside with ⟨point, arrived, failed⟩
    exact ⟨point, ⟨own.1, rfl, arrived⟩, failed⟩
  first := by
    rintro _ point error ⟨tail, rfl, arrived⟩ failed
    rcases walk.first tail point error arrived failed with ⟨found, member, early⟩
    exact ⟨_, Option.mem_map_of_mem _ member, by simpa using early⟩

/-- A walk that does not fail, and one through points behind it. -/
theorem InPreorder.append (walk : InPreorder arguments first points none)
    (later : InPreorder arguments second others stop)
    (apart : ∀ address point behind other, first address point → second behind other →
      address < behind) :
    InPreorder arguments (fun address point => first address point ∨ second address point)
      (points ++ others) stop where
  sorted := by
    refine List.pairwise_append.2 ⟨walk.sorted, later.sorted, ?_⟩
    rintro ⟨address, point⟩ inFirst ⟨behind, other⟩ inSecond
    exact apart _ _ _ _ ((walk.member _ _).1 inFirst).1 ((later.member _ _).1 inSecond).1
  member := by
    intro address point
    rw [List.mem_append, walk.member, later.member]
    constructor
    · rintro (⟨arrived, through, -⟩ | ⟨arrived, rest⟩)
      · -- A failure of the later walk lies behind all points of the first.
        refine ⟨.inl arrived, through, fun found member => ?_⟩
        rcases later.fails found member with ⟨other, at_, -⟩
        exact List.lt_asymm (apart _ _ _ _ arrived at_)
      · exact ⟨.inr arrived, rest⟩
    · rintro ⟨arrived | arrived, rest⟩
      · exact .inl ⟨arrived, rest.1, nofun⟩
      · exact .inr ⟨arrived, rest⟩
  fails := by
    intro found member
    rcases later.fails found member with ⟨point, arrived, failed⟩
    exact ⟨point, .inr arrived, failed⟩
  first := by
    rintro address point error (arrived | arrived) failed
    · rcases walk.first address point error arrived failed with ⟨_, none_, -⟩
      cases none_
    · exact later.first address point error arrived failed

/-- A walk that fails does not come to points behind. -/
theorem InPreorder.ends (walk : InPreorder arguments first points (some found))
    (apart : ∀ address point behind other, first address point → second behind other →
      address < behind) :
    InPreorder arguments (fun address point => first address point ∨ second address point)
      points (some found) where
  sorted := walk.sorted
  member := by
    intro address point
    rcases walk.fails found rfl with ⟨failing, at_, -⟩
    rw [walk.member]
    constructor
    · rintro ⟨arrived, rest⟩
      exact ⟨.inl arrived, rest⟩
    · rintro ⟨arrived | arrived, through, early⟩
      · exact ⟨arrived, through, early⟩
      · exact absurd (apart _ _ _ _ at_ arrived) (early found rfl)
  fails := by
    intro found member
    rcases walk.fails found member with ⟨point, arrived, failed⟩
    exact ⟨point, .inl arrived, failed⟩
  first := by
    rintro address point error (arrived | arrived) failed
    · exact walk.first address point error arrived failed
    · rcases walk.fails found rfl with ⟨failing, at_, -⟩
      exact ⟨found, rfl, List.lt_asymm (apart _ _ _ _ at_ arrived)⟩

/-! ## Trails in preorder -/

/-- A trail is that of a walk in preorder. -/
def Walks (arguments : Arguments) (reached : List Nat → Point → Prop) (trail : Trail Event) :
    Prop :=
  ∃ points stop, InPreorder arguments reached points stop ∧
    trail = ⟨points.flatMap (·.2.events), stop.map (·.2)⟩

variable {trail other : Trail Event}

theorem Walks.congr (walk : Walks arguments first trail)
    (same : ∀ address point, first address point ↔ second address point) :
    Walks arguments second trail := by
  have equal : first = second := by
    funext address point
    exact propext (same address point)
  exact equal ▸ walk

theorem Walks.under (walk : Walks arguments reached trail) (index : Nat) :
    Walks arguments (fun address point => ∃ tail, address = index :: tail ∧ reached tail point)
      trail := by
  rcases walk with ⟨points, stop, walk, rfl⟩
  refine ⟨_, _, walk.under index, ?_⟩
  rw [List.flatMap_map, Option.map_map]
  rfl

theorem Walks.append (walk : Walks arguments first trail) (later : Walks arguments second other)
    (apart : ∀ address point behind other, first address point → second behind other →
      address < behind) :
    Walks arguments (fun address point => first address point ∨ second address point)
      (trail ++ other) := by
  rcases walk with ⟨points, stop, walk, rfl⟩
  rcases later with ⟨others, end_, later, rfl⟩
  cases stop with
  | none => exact ⟨_, _, walk.append later apart, by rw [List.flatMap_append]; rfl⟩
  | some found => exact ⟨_, _, walk.ends apart, rfl⟩

theorem walks_empty (none_ : ∀ address point, ¬ reached address point) :
    Walks arguments reached .empty :=
  ⟨[], none, ⟨.nil, fun address point => by simp [none_], nofun,
    fun address point _ arrived => absurd arrived (none_ address point)⟩, rfl⟩

/-- A walk through the trees below points that lie side by side takes them in turn. -/
theorem walks_all {trailOf : Point → Trail Event} (start : Nat)
    (each : ∀ child ∈ children, Walks arguments (child.Reaches arguments) (trailOf child)) :
    Walks arguments (fun address last => ∃ index child tail, address = (start + index) :: tail ∧
      children[index]? = some child ∧ child.Reaches arguments tail last)
      (.all trailOf children) := by
  induction children generalizing start with
  | nil =>
      refine walks_empty ?_
      rintro _ _ ⟨index, child, tail, -, inside, -⟩
      cases inside
  | cons child rest ih =>
      have here := (each child List.mem_cons_self).under start
      have later := ih (start + 1) fun other member => each other (List.mem_cons_of_mem _ member)
      have both := here.append later (by
        rintro _ _ _ _ ⟨tail, rfl, -⟩ ⟨index, other, behind, rfl, -⟩
        exact List.cons_lt_cons_iff.2 (.inl (by omega)))
      refine both.congr fun address last => ⟨?_, ?_⟩
      · rintro (⟨tail, rfl, arrived⟩ | ⟨index, other, tail, rfl, inside, arrived⟩)
        · exact ⟨0, child, tail, rfl, rfl, arrived⟩
        · exact ⟨index + 1, other, tail, by congr 1; omega, inside, arrived⟩
      · rintro ⟨index, other, tail, rfl, inside, arrived⟩
        cases index with
        | zero =>
            cases inside
            exact .inl ⟨tail, rfl, arrived⟩
        | succ index => exact .inr ⟨index, other, tail, by congr 1; omega, inside, arrived⟩

/-! ## The walk along a route -/

/-- What a walk meets below a point. -/
def trailBelow (arguments : Arguments) (point : Point) : Trail Event :=
  .after point.below (.all fun child => child.route.events arguments child.value)

/-- A walk meets what is at a point, then what lies below it. -/
theorem events_eq (point : Point) :
    point.route.events arguments point.value =
      Route.whenPassed arguments point.route.filter point.value
        (.mk point.events none ++ point.trailBelow arguments) := by
  rcases point with ⟨route, value⟩
  cases route with
  | leaf label schema filter =>
      have none_ : trailBelow arguments ⟨.leaf label schema filter, value⟩ = .empty := rfl
      rw [none_, Trail.append_empty, Route.events]
      congr 1
      rw [events]
      cases value.isObject <;> rfl
  | descend label schema filter field next =>
      have below : trailBelow arguments ⟨.descend label schema filter field next, value⟩ =
          Route.whenPresent field value (next.events arguments) := by
        rw [trailBelow, Point.below, Route.whenPresent]
        dsimp only
        cases field.get value with
        | error error => rfl
        | ok found =>
            cases found with
            | none => rfl
            | some item => exact Trail.append_empty _
      rw [below]
      rfl
  | each label schema next =>
      have below : trailBelow arguments ⟨.each label schema next, value⟩ =
          .after (Route.elements label value) (.all (next.events arguments)) := by
        rw [trailBelow, Point.below]
        dsimp only
        cases Route.elements label value with
        | error error => rfl
        | ok items => exact Trail.all_map _ _ items
      rw [below]
      rfl

theorem reaches_iff {address : List Nat} : point.Reaches arguments address last ↔
    (address = [] ∧ last = point) ∨ (point.IsOpen arguments ∧
      ∃ children, point.below = .ok children ∧ ∃ index child tail, address = index :: tail ∧
        children[index]? = some child ∧ child.Reaches arguments tail last) := by
  constructor
  · intro arrived
    cases arrived with
    | here => exact .inl ⟨rfl, rfl⟩
    | step through below chosen behind =>
        exact .inr ⟨through, _, below, _, _, _, rfl, chosen, behind⟩
  · rintro (⟨rfl, rfl⟩ | ⟨through, children, below, index, child, tail, rfl, chosen, behind⟩)
    · exact .here last
    · exact .step through below chosen behind

/-- A walk that comes to one point only. -/
theorem inPreorder_here {error? : Option QueryError}
    (only : ∀ address last, reached address last ↔ address = [] ∧ last = point)
    (own : ∀ entry, entry ∈ points ↔ entry = ([], point) ∧ point.IsOpen arguments)
    (sorted : points.length ≤ 1)
    (fails : ∀ error, point.Fails arguments error ↔ error? = some error) :
    InPreorder arguments reached points (error?.map ([], ·)) where
  sorted := by
    match points, sorted with
    | [], _ => exact .nil
    | [_], _ => exact List.pairwise_singleton _ _
  member := by
    intro address last
    rw [own, only, Prod.mk.injEq]
    constructor
    · rintro ⟨⟨rfl, rfl⟩, through⟩
      exact ⟨⟨rfl, rfl⟩, through, fun found _ => List.not_lt_nil _⟩
    · rintro ⟨⟨rfl, rfl⟩, through, -⟩
      exact ⟨⟨rfl, rfl⟩, through⟩
  fails := by
    intro found member
    rcases Option.map_eq_some_iff.1 member with ⟨error, same, rfl⟩
    exact ⟨point, (only _ _).2 ⟨rfl, rfl⟩, (fails error).2 same⟩
  first := by
    intro address last error arrived failed
    rcases (only _ _).1 arrived with ⟨rfl, rfl⟩
    exact ⟨([], error), by rw [(fails error).1 failed]; rfl, List.not_lt_nil _⟩

/-- A walk ends at a point that it does not go on from. -/
theorem walks_shut {error? : Option QueryError} (shut : ¬ point.IsOpen arguments)
    (fails : ∀ error, point.Fails arguments error ↔ error? = some error) :
    Walks arguments (point.Reaches arguments) ⟨[], error?⟩ := by
  refine ⟨[], _, inPreorder_here ?_ (by simp [shut]) (Nat.zero_le _) fails, ?_⟩
  · intro address last
    rw [reaches_iff, or_iff_left fun ⟨through, _⟩ => shut through]
  · cases error? <;> rfl

/-- A walk meets what is at an open point. -/
theorem walks_here {error? : Option QueryError} (through : point.IsOpen arguments)
    (only : ∀ address last, reached address last ↔ address = [] ∧ last = point)
    (fails : ∀ error, point.Fails arguments error ↔ error? = some error) :
    Walks arguments reached ⟨point.events, error?⟩ := by
  refine ⟨[([], point)], _, inPreorder_here only (by simp [through]) (Nat.le_refl _) fails, ?_⟩
  rw [List.flatMap_singleton]
  cases error? <;> rfl

/-- A walk that goes through everything below a point in preorder also goes through what the point
itself reaches in preorder. -/
theorem walks_of_below (point : Point)
    (each : ∀ children, point.below = .ok children → ∀ child ∈ children,
      Walks arguments (child.Reaches arguments) (child.route.events arguments child.value)) :
    Walks arguments (point.Reaches arguments) (point.route.events arguments point.value) := by
  rw [events_eq, Route.whenPassed]
  cases null : point.value.isNull with
  | true => exact walks_shut (by simp [IsOpen, null]) (by simp [Fails, null])
  | false =>
      cases passed : Route.passes point.route.filter point.value arguments with
      | error error =>
          exact walks_shut (by simp [IsOpen, passed]) (by simp [Fails, null, passed])
      | ok kept =>
          cases kept with
          | false => exact walks_shut (by simp [IsOpen, passed]) (by simp [Fails, passed])
          | true =>
              have through : point.IsOpen arguments := ⟨null, passed⟩
              simp only [Bool.false_eq_true, if_false, if_true, Trail.after_ok, trailBelow]
              cases below : point.below with
              | error error =>
                  have same : Trail.mk point.events none ++ .failed error =
                      ⟨point.events, some error⟩ :=
                    congrArg (Trail.mk · (some error)) (List.append_nil point.events)
                  rw [Trail.after_error, same]
                  refine walks_here through (fun address last => ?_) ?_
                  · rw [reaches_iff]
                    simp [below]
                  · simp [Fails, null, passed, below]
              | ok children =>
                  have own : Walks arguments (fun address last => address = [] ∧ last = point)
                      ⟨point.events, none⟩ :=
                    walks_here through (fun _ _ => Iff.rfl) (by simp [Fails, passed, below])
                  refine (own.append (walks_all 0 (each children below)) ?_).congr ?_
                  · rintro _ _ _ _ ⟨rfl, rfl⟩ ⟨index, child, tail, rfl, -⟩
                    exact List.nil_lt_cons _ _
                  · intro address last
                    rw [reaches_iff]
                    simp [through, below]

/-- A walk along a route goes through the points that it reaches in preorder. -/
theorem walks (arguments : Arguments) (route : Route) (value : Value) :
    Walks arguments (Point.Reaches arguments ⟨route, value⟩) (route.events arguments value) := by
  -- All points directly below a point are at the next place of the route.
  induction route generalizing value with
  | leaf label schema filter =>
      refine walks_of_below ⟨.leaf label schema filter, value⟩ fun children below => ?_
      cases below
      exact nofun
  | descend label schema filter field next ih =>
      refine walks_of_below ⟨.descend label schema filter field next, value⟩
        fun children below child member => ?_
      rcases Outcome.bind_eq_ok.1 below with ⟨found, -, same⟩
      cases same
      rcases List.mem_map.1 member with ⟨item, -, rfl⟩
      exact ih item
  | each label schema next ih =>
      refine walks_of_below ⟨.each label schema next, value⟩ fun children below child member => ?_
      rcases Outcome.bind_eq_ok.1 below with ⟨items, -, same⟩
      cases same
      rcases List.mem_map.1 member with ⟨item, -, rfl⟩
      exact ih item

end Point

end RecordQuery
