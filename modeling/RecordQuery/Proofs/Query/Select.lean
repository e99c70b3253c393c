import RecordQuery.Proofs.Path.Walks
import RecordQuery.Proofs.Within

/-!
# Rows of a query

A query without collecting columns finds all leaves, keeps those within its limit and
gives each of them a row of its own. A fault of the walk counts wherever it lies; a fault
of a row counts only where the row is asked for.
-/

namespace RecordQuery.Query

variable {query : Query}

/-- All leaves that a query finds in a root value, whatever its limit. -/
def allLeaves (query : Query) (root : Value) (args : List Value) : QueryResult (List Value) := do
  (query.route.trail (← query.binding.expand args) root).result

/-- The row of a leaf. -/
def row (query : Query) (leaf : Value) : QueryResult Value :=
  query.projection.rowOf query.projection.template leaf

/-- The rows of the leaves within a limit, once the walk is known to have no fault. -/
theorem finish_follow_of_separate {projection : Projection} (leaves : List Value) (template : Value)
    (limit : Option Nat) :
    RowBuffer.finish <$> (RowBuffer.start template false limit).follow projection ⟨leaves, none⟩ =
      (within limit leaves).mapM (projection.rowOf template) := by
  have taken : (RowBuffer.start template false limit).taken leaves = within limit leaves := by
    cases limit <;> rfl
  rw [RowBuffer.follow_of_separate leaves rfl, taken, RowBuffer.foldlM_add_of_separate _ rfl]
  simp only [RowBuffer.start]
  cases made : (within limit leaves).mapM (projection.rowOf template) with
  | error error => rfl
  | ok rows =>
      have same := (Outcome.mapM_eq_ok.1 made).length_eq
      cases limited : limit with
      | none => simp [RowBuffer.finish]
      | some bound =>
          have short : rows.length ≤ bound := same ▸ length_within_le leaves limited
          simp [RowBuffer.finish, List.take_of_length_le short]

/-- Under any limit: first all leaves, then the rows of those within the limit. -/
theorem selectUpTo_of_separate (separate : query.projection.aggregate = false)
    (limit : Option Nat) (root : Value) (args : List Value) :
    query.selectUpTo limit root args = (do
      (within limit (← query.allLeaves root args)).mapM query.row) := by
  rw [selectUpTo, allLeaves]
  cases query.binding.expand args with
  | error error => rfl
  | ok arguments =>
      simp only [Outcome.ok_bind, separate, Bool.not_false, if_true]
      rw [Route.count_eq_length, Route.project_eq_follow]
      rcases query.route.trail arguments root with ⟨leaves, fault⟩
      cases fault with
      | some error => rfl
      | none =>
          change RowBuffer.finish <$> RowBuffer.follow query.projection ⟨leaves, none⟩
            (.start query.projection.template false limit) = _
          exact finish_follow_of_separate leaves query.projection.template limit

/-- Counting gives the number of all leaves. -/
theorem count_eq_length_allLeaves (root : Value) (args : List Value) :
    query.count root args = List.length <$> query.allLeaves root args := by
  rw [count, allLeaves]
  cases query.binding.expand args with
  | error error => rfl
  | ok arguments => exact Route.count_eq_length query.route root

/-- The first row is made of the first leaf within the limit. -/
theorem selectFirst_of_separate (separate : query.projection.aggregate = false) (root : Value)
    (args : List Value) :
    query.selectFirst root args = (do
      (within query.limit (← query.allLeaves root args)).head?.mapM query.row) := by
  rw [selectFirst, selectUpTo_of_separate separate]
  cases query.allLeaves root args with
  | error error => rfl
  | ok leaves =>
      have first : within (some (query.limit.elim 1 (min 1))) leaves =
          (within query.limit leaves).take 1 := by
        cases query.limit with
        | none => rfl
        | some limit => exact List.take_take.symm
      rw [Outcome.ok_bind, Outcome.ok_bind, first]
      cases within query.limit leaves with
      | nil => rfl
      | cons leaf rest =>
          change (query.row leaf >>= _) >>= _ = query.row leaf >>= _
          cases query.row leaf <;> rfl

/-- Selecting expands the arguments, finds all leaves, and projects those within the limit
one by one into rows of their own. So a limit cuts off the rows of the same query without
one, the first row is the head of all rows, and the count is the number of leaves under
every limit. -/
theorem selectAll_eq_rows_within (query : Query) (separate : query.projection.aggregate = false)
    (root : Value) (args : List Value) :
    query.selectAll root args = (do
      (within query.limit (← query.allLeaves root args)).mapM query.row) ∧
    query.selectFirst root args = (do
      (within query.limit (← query.allLeaves root args)).head?.mapM query.row) ∧
    (∀ limit, { query with limit }.count root args = List.length <$> query.allLeaves root args) ∧
    (∀ rows, { query with limit := none }.selectAll root args = .ok rows →
      query.count root args = .ok rows.length ∧
      ∀ bound, { query with limit := some bound }.selectAll root args = .ok (rows.take bound)) ∧
    ∀ rows, query.selectAll root args = .ok rows →
      query.selectFirst root args = .ok rows.head? := by
  have all : query.selectAll root args = _ :=
    selectUpTo_of_separate separate query.limit root args
  have first := selectFirst_of_separate separate root args
  refine ⟨all, first, fun limit => count_eq_length_allLeaves root args, ?_, ?_⟩
  · intro rows selected
    change query.selectUpTo none root args = .ok rows at selected
    rw [selectUpTo_of_separate separate, Outcome.bind_eq_ok] at selected
    rcases selected with ⟨leaves, found, made⟩
    have paired := Outcome.mapM_eq_ok.1 made
    constructor
    · rw [count_eq_length_allLeaves, found, Outcome.map_ok, ← paired.length_eq]
      rfl
    · intro bound
      change query.selectUpTo (some bound) root args = .ok (rows.take bound)
      rw [selectUpTo_of_separate separate, found]
      exact Outcome.mapM_eq_ok.2 (List.forall₂_take bound paired)
  · intro rows selected
    rw [all, Outcome.bind_eq_ok] at selected
    rcases selected with ⟨leaves, found, made⟩
    rw [first, found, Outcome.ok_bind]
    have paired := Outcome.mapM_eq_ok.1 made
    generalize within query.limit leaves = kept at paired
    cases paired with
    | nil => rfl
    | cons row others => exact congrArg (some <$> ·) row

/-- The numbers of active nodes under a limit that ends within the nodes of the second
item. -/
theorem selectAll_eq_rows_within_catalogue :
    ∃ route binding projection,
      bindPath catalogue activeNodes none = .ok (route, binding) ∧
      Projection.compile route.leafSchema [.field "ID" (some "Number")] none = .ok projection ∧
      projection.aggregate = false ∧
      Query.selectAll ⟨route, projection, binding, some 2⟩
        (.object [("Items", .array [item true [1], item false [2], item true [3, 4]])]) [] =
          .ok [.object [("Number", .ofInt64 1)], .object [("Number", .ofInt64 3)]] := by
  refine ⟨_, _, _, rfl, rfl, rfl, ?_⟩
  exact (selectAll_eq_rows_within ⟨_, _, _, some 2⟩ rfl _ []).1

end RecordQuery.Query
