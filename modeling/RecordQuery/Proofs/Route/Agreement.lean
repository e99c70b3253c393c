import RecordQuery.Proofs.Route.Events

/-!
# Three walks, one trail

Counting gives the number of leaves of the trail. Projecting puts them into the buffer one
by one, until it is full. Visiting calls the visitors with the events one by one. All
three report the fault of the trail, unless they have ended before.
-/

namespace RecordQuery

variable {α β σ : Type} {arguments : Arguments}

/-! ## Counting -/

namespace Trail

theorem length_result_append (first second : Trail α) :
    List.length <$> (first ++ second).result = do
      let count ← List.length <$> first.result
      return count + (← List.length <$> second.result) := by
  rw [result_append]
  cases first.result <;> cases second.result <;> simp

/-- Counting the elements one after the other adds up to the length of their common
trail. -/
theorem length_result_all (trailOf : β → Trail α) (elements : List β) (total : Nat) :
    elements.foldlM (fun total element => do
        return total + (← List.length <$> (trailOf element).result)) total =
      (total + ·) <$> (List.length <$> (all trailOf elements).result : QueryResult Nat) := by
  induction elements generalizing total with
  | nil => rfl
  | cons first rest ih =>
      rw [List.foldlM_cons, all, length_result_append]
      cases (trailOf first).result with
      | error error => rfl
      | ok items =>
          simp only [Outcome.map_ok, Outcome.ok_bind, pure_bind]
          rw [ih]
          cases (all trailOf rest).result with
          | error error => rfl
          | ok others => simp [Nat.add_assoc]

end Trail

namespace Route

theorem length_whenPassed (filter : Option Condition) (value : Value) (next : Trail α) :
    List.length <$> (whenPassed arguments filter value next).result = (do
      if value.isNull then return 0
      if !(← passes filter value arguments) then return 0
      List.length <$> next.result) := by
  rw [whenPassed]
  cases value.isNull with
  | true => rfl
  | false =>
      cases passes filter value arguments with
      | error error => rfl
      | ok passed => cases passed <;> rfl

theorem length_whenPresent (field : Accessor) (record : Value) (next : Value → Trail α) :
    List.length <$> (whenPresent field record next).result = (do
      match ← field.get record with
      | some item => List.length <$> (next item).result
      | none => return 0) := by
  rw [whenPresent]
  cases field.get record with
  | error error => rfl
  | ok found => cases found <;> rfl

/-- Counting gives the number of leaves. -/
theorem count_eq_length (route : Route) (value : Value) :
    route.count arguments value = List.length <$> (route.trail arguments value).result := by
  induction route generalizing value with
  | leaf label schema filter =>
      rw [count, trail_leaf, length_whenPassed]
      cases value.isNull with
      | true => rfl
      | false =>
          cases passes filter value arguments with
          | error error => rfl
          | ok passed => cases passed <;> rfl
  | descend label schema filter field next ih =>
      rw [trail_descend, length_whenPassed, length_whenPresent]
      simp only [← ih]
      rfl
  | each label schema next ih =>
      rw [count, trail_each, throughElements]
      cases value.isNull with
      | true => rfl
      | false =>
          cases elements label value with
          | error error => rfl
          | ok items =>
              simp only [Outcome.ok_bind, Trail.after_ok, ih, Bool.false_eq_true, if_false]
              rw [Trail.length_result_all]
              cases (Trail.all (next.trail arguments) items).result <;> simp

end Route

/-! ## Projecting -/

namespace RowBuffer

/-- The buffer with the row of one more leaf. -/
def add (projection : Projection) (buffer : RowBuffer) (leaf : Value) : QueryResult RowBuffer := do
  let (row, outcome) := projection.apply leaf buffer.slot.1
  outcome
  return buffer.write row

/-- The buffer with the rows of leaves, as far as it has room for them. What ends the
leaves counts only if there is room left. -/
def fill (projection : Projection) (fault : Option QueryError) :
    List Value → RowBuffer → QueryResult RowBuffer
  | [], buffer =>
      match buffer.isFull, fault with
      | false, some error => .error error
      | _, _ => .ok buffer
  | leaf :: rest, buffer =>
      if buffer.isFull then .ok buffer
      else do fill projection fault rest (← buffer.add projection leaf)

/-- The buffer with the rows of the leaves of a trail. -/
def follow (projection : Projection) (trail : Trail Value) (buffer : RowBuffer) :
    QueryResult RowBuffer :=
  fill projection trail.fault trail.items buffer

variable {projection : Projection}

/-- A full buffer takes nothing more. -/
theorem follow_of_isFull (trail : Trail Value) {buffer : RowBuffer} (full : buffer.isFull = true) :
    follow projection trail buffer = .ok buffer := by
  rcases trail with ⟨items, fault⟩
  cases items <;> simp [follow, fill, full]

@[simp] theorem follow_empty (buffer : RowBuffer) :
    follow projection .empty buffer = .ok buffer := by
  cases full : buffer.isFull <;> simp [follow, fill, Trail.empty, full]

theorem follow_failed (error : QueryError) {buffer : RowBuffer} (room : buffer.isFull = false) :
    follow projection (.failed error) buffer = .error error := by
  simp [follow, fill, Trail.failed, room]

theorem follow_one (leaf : Value) {buffer : RowBuffer} (room : buffer.isFull = false) :
    follow projection (.one leaf) buffer = buffer.add projection leaf := by
  simp only [follow, fill, Trail.one, room]
  cases buffer.add projection leaf with
  | error error => rfl
  | ok next => cases next.isFull <;> simp

/-- A buffer follows one trail behind another by following both in turn. -/
theorem follow_append (first second : Trail Value) (buffer : RowBuffer) :
    follow projection (first ++ second) buffer =
      follow projection first buffer >>= follow projection second := by
  rcases first with ⟨items, fault⟩
  cases fault with
  | some error =>
      change fill projection (some error) items buffer =
        fill projection (some error) items buffer >>= follow projection second
      induction items generalizing buffer with
      | nil =>
          cases full : buffer.isFull with
          | true => simp [fill, follow_of_isFull, full]
          | false => simp [fill, full]
      | cons leaf rest ih =>
          cases full : buffer.isFull with
          | true => simp [fill, full, follow_of_isFull]
          | false =>
              simp only [fill, full, Bool.false_eq_true, if_false]
              cases buffer.add projection leaf with
              | error error => rfl
              | ok next => exact ih next
  | none =>
      change fill projection second.fault (items ++ second.items) buffer =
        fill projection none items buffer >>= follow projection second
      induction items generalizing buffer with
      | nil => cases full : buffer.isFull <;> simp [fill, full, follow]
      | cons leaf rest ih =>
          cases full : buffer.isFull with
          | true => simp [fill, full, follow_of_isFull]
          | false =>
              simp only [List.cons_append, fill, full, Bool.false_eq_true, if_false]
              cases buffer.add projection leaf with
              | error error => rfl
              | ok next => exact ih next

/-- A buffer follows the trails of elements by following each in turn while there is
room. -/
theorem follow_all (trailOf : β → Trail Value) (elements : List β) (buffer : RowBuffer) :
    elements.foldlM (fun buffer element =>
        if buffer.isFull then pure buffer else follow projection (trailOf element) buffer) buffer =
      follow projection (.all trailOf elements) buffer := by
  induction elements generalizing buffer with
  | nil => exact (follow_empty buffer).symm
  | cons first rest ih =>
      rw [List.foldlM_cons, Trail.all, follow_append]
      cases full : buffer.isFull with
      | true =>
          rw [if_pos rfl, pure_bind, ih, follow_of_isFull _ full, follow_of_isFull _ full]
          exact (follow_of_isFull _ full).symm
      | false =>
          rw [if_neg Bool.false_ne_true]
          congr 1
          funext next
          exact ih next

end RowBuffer

namespace Route

variable {projection : Projection} {buffer : RowBuffer}

theorem follow_whenPassed (filter : Option Condition) (value : Value) (next : Trail Value)
    (room : buffer.isFull = false) :
    buffer.follow projection (whenPassed arguments filter value next) = (do
      if value.isNull then return buffer
      if !(← passes filter value arguments) then return buffer
      buffer.follow projection next) := by
  rw [whenPassed]
  cases value.isNull with
  | true => exact RowBuffer.follow_empty buffer
  | false =>
      cases passes filter value arguments with
      | error error => exact RowBuffer.follow_failed error room
      | ok passed =>
          cases passed with
          | true => rfl
          | false => exact RowBuffer.follow_empty buffer

theorem follow_whenPresent (field : Accessor) (record : Value) (next : Value → Trail Value)
    (room : buffer.isFull = false) :
    buffer.follow projection (whenPresent field record next) = (do
      match ← field.get record with
      | some item => buffer.follow projection (next item)
      | none => return buffer) := by
  rw [whenPresent]
  cases field.get record with
  | error error => exact RowBuffer.follow_failed error room
  | ok found =>
      cases found with
      | some item => rfl
      | none => exact RowBuffer.follow_empty buffer

/-- Projecting puts the leaves into the buffer one by one. -/
theorem project_eq_follow (projection : Projection) (route : Route) (value : Value)
    (buffer : RowBuffer) :
    route.project arguments projection value buffer =
      buffer.follow projection (route.trail arguments value) := by
  cases full : buffer.isFull with
  | true =>
      rw [RowBuffer.follow_of_isFull _ full]
      cases route <;> simp [project, full]
  | false =>
      induction route generalizing value buffer with
      | leaf label schema filter =>
          rw [project, trail_leaf, follow_whenPassed _ _ _ full, RowBuffer.follow_one _ full, full]
          rfl
      | descend label schema filter field next ih =>
          rw [project, trail_descend, follow_whenPassed _ _ _ full, follow_whenPresent _ _ _ full,
            full]
          simp only [ih _ _ full]
          rfl
      | each label schema next ih =>
          rw [project, trail_each, throughElements, full]
          cases value.isNull with
          | true => exact (RowBuffer.follow_empty buffer).symm
          | false =>
              cases elements label value with
              | error error => exact (RowBuffer.follow_failed error full).symm
              | ok items =>
                  rw [Trail.after_ok, if_neg Bool.false_ne_true, ← RowBuffer.follow_all]
                  change items.foldlM _ buffer = items.foldlM _ buffer
                  congr 1
                  funext buffer item
                  cases full : buffer.isFull with
                  | true => rfl
                  | false => exact ih item buffer full

end Route

/-! ## Visiting -/

namespace Trail

/-- Calls a callback with the items one by one, then fails where the trail does. -/
def play (call : α → ExceptT QueryError (StateM σ) Unit) (trail : Trail α) :
    ExceptT QueryError (StateM σ) Unit := do
  trail.items.forM call
  match trail.fault with
  | some error => throw error
  | none => return ()

variable {call : α → ExceptT QueryError (StateM σ) Unit}

@[simp] theorem play_empty : (empty : Trail α).play call = pure () := rfl

@[simp] theorem play_failed (error : QueryError) :
    (failed error : Trail α).play call = throw error := rfl

@[simp] theorem play_one (item : α) : (one item).play call = call item := by
  simp [play, one]

theorem play_append (first second : Trail α) :
    (first ++ second).play call = (do first.play call; second.play call) := by
  rcases first with ⟨items, fault⟩
  cases fault with
  | some error =>
      change (do items.forM call; throw error) =
        (do (do items.forM call; throw error); second.play call)
      rw [bind_assoc]
      congr 1
  | none =>
      change (do (items ++ second.items).forM call; _) = (do (do items.forM call; pure ()); _)
      simp [play]
      rfl

theorem play_after (step : QueryResult β) (next : β → Trail α) :
    (after step next).play call = (do (next (← liftM step)).play call) := by
  cases step with
  | error error => rfl
  | ok value => rfl

theorem play_all (trailOf : β → Trail α) (elements : List β) :
    (all trailOf elements).play call =
    elements.forM fun element => (trailOf element).play call := by
  induction elements with
  | nil => rfl
  | cons first rest ih =>
      rw [all, play_append, ih]
      rfl

end Trail

namespace Route

/-- Calls the visitor that an event is for. -/
def Visitors.call (visitors : Visitors σ) : Event → ExceptT QueryError (StateM σ) Unit
  | .record route value => visitors.onRecord route value
  | .leaf value => visitors.onLeaf value

variable {call : α → ExceptT QueryError (StateM σ) Unit}

theorem play_whenPassed (filter : Option Condition) (value : Value) (next : Trail α) :
    (whenPassed arguments filter value next).play call = (do
      if value.isNull then return ()
      if !(← liftM (passes filter value arguments)) then return ()
      next.play call) := by
  rw [whenPassed]
  cases value.isNull with
  | true => rfl
  | false =>
      simp only [Bool.false_eq_true, if_false, Trail.play_after]
      congr 1
      funext passed
      cases passed <;> rfl

theorem play_whenPresent (field : Accessor) (record : Value) (next : Value → Trail α) :
    (whenPresent field record next).play call = (do
      match ← liftM (field.get record) with
      | some item => (next item).play call
      | none => return ()) := by
  rw [whenPresent, Trail.play_after]
  congr 1
  funext found
  cases found <;> rfl

/-- Visiting calls the visitors with the events one by one. -/
theorem visit_eq_play (visitors : Visitors σ) (route : Route) (value : Value) :
    route.visit arguments visitors value = (route.events arguments value).play visitors.call := by
  induction route generalizing value with
  | leaf label schema filter =>
      rw [visit, events, play_whenPassed, Trail.play_append]
      cases value.isObject <;> simp [Visitors.call]
  | descend label schema filter field next ih =>
      rw [events, play_whenPassed, Trail.play_append, Trail.play_one, play_whenPresent]
      simp only [← ih]
      rfl
  | each label schema next ih =>
      rw [visit, events, throughElements]
      cases value.isNull with
      | true => rfl
      | false => simp [Trail.play_after, Trail.play_all, ih]

end Route

end RecordQuery
