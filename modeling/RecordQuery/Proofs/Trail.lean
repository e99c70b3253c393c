import RecordQuery.Proofs.Outcome

/-!
# Trails

A walk meets items one after the other until it ends or fails. Its trail holds the items
that it met, in order, and the fault that ended it, so two walks can be compared up to the
point at which they fail.
-/

namespace RecordQuery

/-- The items that a walk meets, and the fault that ends it before its end. -/
structure Trail (α : Type) where
  items : List α
  fault : Option QueryError

namespace Trail

variable {α β γ σ : Type}

def empty : Trail α := ⟨[], none⟩

def one (item : α) : Trail α := ⟨[item], none⟩

def failed (error : QueryError) : Trail α := ⟨[], some error⟩

/-- One trail behind another. Nothing is met behind a fault. -/
def append (first second : Trail α) : Trail α :=
  match first.fault with
  | some _ => first
  | none => ⟨first.items ++ second.items, second.fault⟩

instance : Append (Trail α) := ⟨append⟩

/-- The trails of the elements of a list, one behind the other. -/
def all (trailOf : β → Trail α) : List β → Trail α
  | [] => empty
  | first :: rest => trailOf first ++ all trailOf rest

/-- The trail behind a step, which may fail itself. -/
def after (step : QueryResult β) (next : β → Trail α) : Trail α :=
  match step with
  | .ok value => next value
  | .error error => failed error

/-- Some of the items, each in another form. -/
def filterMap (image : α → Option β) (trail : Trail α) : Trail β :=
  ⟨trail.items.filterMap image, trail.fault⟩

/-- All items, or the fault. -/
def result (trail : Trail α) : QueryResult (List α) :=
  match trail.fault with
  | some error => .error error
  | none => .ok trail.items

@[simp] theorem after_ok (value : β) (next : β → Trail α) :
    after (.ok value) next = next value := rfl

@[simp] theorem after_error (error : QueryError) (next : β → Trail α) :
    after (.error error) next = failed error := rfl

@[simp] theorem failed_append (error : QueryError) (second : Trail α) :
    failed error ++ second = failed error := rfl

@[simp] theorem empty_append (trail : Trail α) : empty ++ trail = trail := rfl

@[simp] theorem append_empty (trail : Trail α) : trail ++ empty = trail := by
  rcases trail with ⟨items, fault⟩
  cases fault with
  | none => exact congrArg (Trail.mk · none) (List.append_nil items)
  | some error => rfl

theorem all_map (trailOf : γ → Trail α) (image : β → γ) (elements : List β) :
    all trailOf (elements.map image) = all (fun element => trailOf (image element)) elements := by
  induction elements with
  | nil => rfl
  | cons first rest ih => rw [List.map_cons, all, ih, all]

/-! ## Selecting items -/

@[simp] theorem filterMap_empty (image : α → Option β) : empty.filterMap image = empty := rfl

@[simp] theorem filterMap_failed (image : α → Option β) (error : QueryError) :
    (failed error).filterMap image = failed error := rfl

@[simp] theorem filterMap_append (image : α → Option β) (first second : Trail α) :
    (first ++ second).filterMap image = first.filterMap image ++ second.filterMap image := by
  rcases first with ⟨items, fault⟩
  cases fault with
  | none => exact congrArg (Trail.mk · second.fault) List.filterMap_append
  | some error => rfl

@[simp] theorem filterMap_all (image : α → Option β) (trailOf : γ → Trail α) (elements : List γ) :
    (all trailOf elements).filterMap image = all (fun element => (trailOf element).filterMap image)
      elements := by
  induction elements with
  | nil => rfl
  | cons first rest ih => rw [all, filterMap_append, ih, all]

@[simp] theorem filterMap_after (image : α → Option β) (step : QueryResult γ)
    (next : γ → Trail α) :
    (after step next).filterMap image = after step fun value => (next value).filterMap image := by
  cases step <;> rfl

/-! ## Results -/

@[simp] theorem result_empty : (empty : Trail α).result = .ok [] := rfl

@[simp] theorem result_one (item : α) : (one item).result = .ok [item] := rfl

@[simp] theorem result_failed (error : QueryError) :
    (failed error : Trail α).result = .error error := rfl

theorem result_append (first second : Trail α) :
    (first ++ second).result = do return (← first.result) ++ (← second.result) := by
  rcases first with ⟨items, fault⟩
  rcases second with ⟨others, end_⟩
  cases fault with
  | some error => rfl
  | none => cases end_ <;> rfl

end Trail

end RecordQuery
