import RecordQuery.Proofs.Route.Agreement

/-!
# Rows of a walk

What a buffer holds at the end of a walk. Without a limit it takes all leaves. Where each
leaf has a row of its own, the rows are those of the leaves in order, cut off at the
limit.
-/

namespace RecordQuery

/-- The row of one leaf in a fresh copy of a template. -/
def Projection.rowOf (projection : Projection) (template leaf : Value) : QueryResult Value := do
  let (row, outcome) := projection.apply leaf template
  outcome
  return row

/-- Leaves whose projection never fails have a row each. -/
theorem Projection.mapM_rowOf {projection : Projection} {template : Value} {leaves : List Value}
    (calm : ∀ leaf ∈ leaves, (projection.apply leaf template).2 = .ok ()) :
    leaves.mapM (projection.rowOf template) =
      .ok (leaves.map fun leaf => (projection.apply leaf template).1) := by
  induction leaves with
  | nil => rfl
  | cons leaf rest ih =>
      have first : projection.rowOf template leaf = .ok (projection.apply leaf template).1 := by
        change (projection.apply leaf template).2 >>= _ = _
        rw [calm leaf List.mem_cons_self]
        rfl
      rw [List.mapM_cons, first, ih fun other member => calm other (List.mem_cons_of_mem _ member)]
      rfl

namespace RowBuffer

variable {projection : Projection}

/-! ## Buffers that never fill up -/

/-- A buffer has room for any number of leaves: they share its row, or it has no limit. -/
def Roomy (buffer : RowBuffer) : Prop := buffer.aggregate = true ∨ buffer.limit = none

theorem isFull_of_roomy {buffer : RowBuffer} (roomy : buffer.Roomy) : buffer.isFull = false := by
  rcases roomy with shared | unlimited
  · simp [isFull, shared]
  · simp [isFull, unlimited]

theorem roomy_of_add {buffer next : RowBuffer} {leaf : Value}
    (added : buffer.add projection leaf = .ok next) (roomy : buffer.Roomy) : next.Roomy := by
  rw [add] at added
  rcases Outcome.bind_eq_ok.1 added with ⟨_, -, same⟩
  cases same
  exact roomy

/-- A buffer with room for them takes all leaves, then fails where the trail does. -/
theorem follow_of_roomy (trail : Trail Value) {buffer : RowBuffer} (roomy : buffer.Roomy) :
    follow projection trail buffer = (do
      let last ← trail.items.foldlM (add projection) buffer
      let _ ← trail.result
      return last) := by
  rcases trail with ⟨items, fault⟩
  change fill projection fault items buffer = _
  induction items generalizing buffer with
  | nil => cases fault <;> simp [fill, isFull_of_roomy roomy, Trail.result]
  | cons leaf rest ih =>
      rw [fill, isFull_of_roomy roomy, List.foldlM_cons]
      cases added : buffer.add projection leaf with
      | error error => rfl
      | ok next =>
          rw [if_neg Bool.false_ne_true, Outcome.ok_bind, Outcome.ok_bind,
            ih (roomy_of_add added roomy)]
          cases fault <;> rfl

theorem isFull_of_unlimited {buffer : RowBuffer} (unlimited : buffer.limit = none) :
    buffer.isFull = false :=
  isFull_of_roomy (.inr unlimited)

/-- A buffer without a limit takes all leaves, then fails where the trail does. -/
theorem follow_of_unlimited (trail : Trail Value) {buffer : RowBuffer}
    (unlimited : buffer.limit = none) :
    follow projection trail buffer = (do
      let last ← trail.items.foldlM (add projection) buffer
      let _ ← trail.result
      return last) :=
  follow_of_roomy trail (.inr unlimited)

/-! ## A row for each leaf -/

theorem add_of_separate {buffer : RowBuffer} (separate : buffer.aggregate = false) (leaf : Value) :
    buffer.add projection leaf =
      (fun row => { buffer with newest := row :: buffer.newest }) <$>
        projection.rowOf buffer.template leaf := by
  have slot : buffer.slot = (buffer.template, buffer.newest) := by
    rw [RowBuffer.slot, separate]
    cases buffer.newest <;> rfl
  simp only [add, write, slot, Projection.rowOf]
  cases (projection.apply leaf buffer.template).2 <;> rfl

/-- Leaves with a row each put their rows behind those that are there. -/
theorem foldlM_add_of_separate (leaves : List Value) {buffer : RowBuffer}
    (separate : buffer.aggregate = false) :
    leaves.foldlM (add projection) buffer =
      (fun rows => { buffer with newest := rows.reverse ++ buffer.newest }) <$>
        leaves.mapM (projection.rowOf buffer.template) := by
  induction leaves generalizing buffer with
  | nil => rfl
  | cons leaf rest ih =>
      rw [List.foldlM_cons, List.mapM_cons, add_of_separate separate]
      cases projection.rowOf buffer.template leaf with
      | error error => rfl
      | ok row =>
          rw [Outcome.map_ok, Outcome.ok_bind, Outcome.ok_bind, ih (by exact separate)]
          cases rest.mapM (projection.rowOf buffer.template) with
          | error error => rfl
          | ok rows => simp

/-- The leaves that a buffer with a row for each of them has room for. -/
def taken (buffer : RowBuffer) (leaves : List Value) : List Value :=
  match buffer.limit with
  | none => leaves
  | some limit => leaves.take (limit - buffer.size)

/-- A walk without a fault fills the rows that there is room for. -/
theorem follow_of_separate (leaves : List Value) {buffer : RowBuffer}
    (separate : buffer.aggregate = false) :
    follow projection ⟨leaves, none⟩ buffer =
      (buffer.taken leaves).foldlM (add projection) buffer := by
  change fill projection none leaves buffer = _
  induction leaves generalizing buffer with
  | nil => cases full : buffer.isFull <;> cases limit : buffer.limit <;> simp [fill, taken, limit]
  | cons leaf rest ih =>
      have step (next : RowBuffer) (added : buffer.add projection leaf = .ok next) :
          next.aggregate = false ∧ next.limit = buffer.limit ∧ next.size = buffer.size + 1 := by
        rw [add_of_separate separate] at added
        rcases Outcome.map_eq_ok.1 added with ⟨row, -, rfl⟩
        exact ⟨separate, rfl, rfl⟩
      cases limit : buffer.limit with
      | none =>
          rw [fill, isFull_of_unlimited limit, taken, limit, List.foldlM_cons]
          cases added : buffer.add projection leaf with
          | error error => rfl
          | ok next =>
              rcases step next added with ⟨apart, same, -⟩
              rw [if_neg Bool.false_ne_true, Outcome.ok_bind, Outcome.ok_bind, ih apart, taken, same,
                limit]
      | some limit' =>
          cases room : limit' - buffer.size with
          | zero =>
              have full : buffer.isFull = true := by simp [isFull, separate, limit]; omega
              simp [fill, full, taken, limit, room]
          | succ more =>
              have open_ : buffer.isFull = false := by simp [isFull, separate, limit]; omega
              rw [fill, open_, taken, limit]
              simp only [room, List.take_succ_cons, List.foldlM_cons]
              cases added : buffer.add projection leaf with
              | error error => rfl
              | ok next =>
                  rcases step next added with ⟨apart, same, grown⟩
                  rw [if_neg Bool.false_ne_true, Outcome.ok_bind, Outcome.ok_bind, ih apart, taken,
                    same, limit]
                  have : limit' - next.size = more := by omega
                  simp only [this]

/-! ## One row for all leaves -/

/-- A buffer whose leaves share one row holds no other. -/
structure Shared (buffer : RowBuffer) : Prop where
  aggregate : buffer.aggregate = true
  alone : buffer.slot.2 = []

theorem Shared.finish {buffer : RowBuffer} (shared : buffer.Shared) :
    buffer.finish = [buffer.slot.1] := by
  rcases shared with ⟨aggregate, alone⟩
  rcases buffer with ⟨_ | ⟨row, older⟩, template, _, limit⟩
  all_goals
    cases aggregate
  · rfl
  · cases alone
    rfl

/-- A leaf goes into the shared row. -/
theorem Shared.add {buffer : RowBuffer} (shared : buffer.Shared) (leaf : Value) :
    buffer.add projection leaf =
      (fun row => { buffer with newest := [row] }) <$>
        projection.rowOf buffer.slot.1 leaf := by
  simp only [RowBuffer.add, write, shared.alone, Projection.rowOf]
  cases (projection.apply leaf buffer.slot.1).2 <;> rfl

/-- Leaves that share a row are projected into it one after the other, whatever the limit is. -/
theorem finish_foldlM_add_of_shared (leaves : List Value) {buffer : RowBuffer}
    (shared : buffer.Shared) :
    RowBuffer.finish <$> leaves.foldlM (RowBuffer.add projection) buffer =
      (fun row => [row]) <$> leaves.foldlM projection.rowOf buffer.slot.1 := by
  induction leaves generalizing buffer with
  | nil =>
      change Except.ok buffer.finish = .ok [buffer.slot.1]
      rw [shared.finish]
  | cons leaf rest ih =>
      rw [List.foldlM_cons, List.foldlM_cons, shared.add]
      cases projection.rowOf buffer.slot.1 leaf with
      | error error => rfl
      | ok row =>
          let next : RowBuffer := { buffer with newest := [row] }
          have slot : next.slot = (row, []) := by
            simp only [next, RowBuffer.slot, shared.aggregate, if_true]
          have still : next.Shared := ⟨shared.aggregate, congrArg Prod.snd slot⟩
          have later := ih still
          rw [slot] at later
          exact later

/-- So a walk ends with the one row of all leaves, if neither a row nor the walk has a fault. -/
theorem finish_follow_of_shared (trail : Trail Value) {buffer : RowBuffer}
    (shared : buffer.Shared) :
    RowBuffer.finish <$> follow projection trail buffer = (do
      let row ← trail.items.foldlM projection.rowOf buffer.slot.1
      let _ ← trail.result
      return [row]) := by
  have together : RowBuffer.finish <$> trail.items.foldlM (RowBuffer.add projection) buffer = _ :=
    finish_foldlM_add_of_shared trail.items shared
  rw [follow_of_roomy trail (.inl shared.aggregate)]
  cases made : trail.items.foldlM projection.rowOf buffer.slot.1 with
  | error error =>
      rw [made] at together
      cases added : trail.items.foldlM (RowBuffer.add projection) buffer with
      | error other =>
          rw [added] at together
          cases together
          rfl
      | ok last =>
          rw [added] at together
          cases together
  | ok row =>
      rw [made] at together
      rcases Outcome.map_eq_ok.1 together with ⟨last, added, single⟩
      rw [added]
      cases trail.result with
      | error error => rfl
      | ok items => exact congrArg Except.ok single

end RowBuffer

end RecordQuery
