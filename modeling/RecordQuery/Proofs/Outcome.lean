import Mathlib.Data.List.Forall2
import RecordQuery.QueryError

/-!
# Outcomes of steps

A step of a query or of a table run gives a value or the cause of its failure. The lemmas
here take a sequence of steps apart.
-/

namespace RecordQuery.Outcome

variable {ε α β : Type}

@[simp] theorem pure_eq (value : α) : (pure value : Except ε α) = .ok value := rfl

@[simp] theorem throw_eq (error : ε) : (throw error : Except ε α) = .error error := rfl

@[simp] theorem ok_bind (value : α) (next : α → Except ε β) :
    (Except.ok value >>= next) = next value := rfl

@[simp] theorem error_bind (error : ε) (next : α → Except ε β) :
    ((Except.error error : Except ε α) >>= next) = .error error := rfl

@[simp] theorem map_ok (image : α → β) (value : α) :
    image <$> (Except.ok value : Except ε α) = .ok (image value) := rfl

@[simp] theorem map_error (image : α → β) (error : ε) :
    image <$> (Except.error error : Except ε α) = .error error := rfl

/-- A sequence of steps succeeds exactly when each of them does. -/
theorem bind_eq_ok {first : Except ε α} {next : α → Except ε β} {result : β} :
    (first >>= next) = .ok result ↔ ∃ value, first = .ok value ∧ next value = .ok result := by
  cases first with
  | error error => simp
  | ok value => simp

/-- A step that is one of two, and then the next one. -/
theorem ite_bind {c : Prop} [Decidable c] (step other : Except ε α) (next : α → Except ε β) :
    (if c then step else other) >>= next = if c then step >>= next else other >>= next :=
  apply_ite (· >>= next) c step other

theorem map_eq_ok {image : α → β} {step : Except ε α} {result : β} :
    image <$> step = .ok result ↔ ∃ value, step = .ok value ∧ image value = result := by
  cases step with
  | error error => simp
  | ok value => simp

theorem toOption_eq_some {step : Except ε α} {value : α} :
    step.toOption = some value ↔ step = .ok value := by
  cases step with
  | error error => simp [Except.toOption]
  | ok found => simp [Except.toOption]

/-- Sequences of steps have the same result when their parts do, whatever errors they fail with. -/
theorem toOption_bind_congr {first second : Except ε α} {next other : α → Except ε β}
    (same : first.toOption = second.toOption)
    (behind : ∀ value, (next value).toOption = (other value).toOption) :
    (first >>= next).toOption = (second >>= other).toOption := by
  cases first with
  | error error =>
      cases second with
      | error error => rfl
      | ok value => cases same
  | ok value =>
      cases second with
      | error error => cases same
      | ok found =>
          cases same
          exact behind value

theorem exists_of_isOk {step : Except ε α} (succeeds : step.isOk = true) :
    ∃ value, step = .ok value := by
  cases step with
  | error error => cases succeeds
  | ok value => exact ⟨value, rfl⟩

/-- The fault of a text that a step failed with. -/
def parseFault? : QueryResult α → Option ParseFault
  | .error (.parse fault) => some fault
  | .error (.resolution _) | .error (.compile _) | .error (.execution _ _) | .ok _ => none

theorem eq_error_of_parse {result : QueryResult α} {fault : ParseFault}
    (shown : parseFault? result = some fault) : result = .error (.parse fault) := by
  cases result with
  | ok value => cases shown
  | error error =>
      cases error <;> cases shown
      rfl

/-- A step for each item of a list succeeds exactly when each of them does. -/
theorem mapM_eq_ok {step : α → Except ε β} {items : List α} {results : List β} :
    items.mapM step = .ok results ↔
      List.Forall₂ (fun item result => step item = .ok result) items results := by
  induction items generalizing results with
  | nil => simp [eq_comm]
  | cons item rest ih =>
      rw [List.mapM_cons, bind_eq_ok, List.forall₂_cons_left_iff]
      constructor
      · rintro ⟨first, made, found⟩
        rcases bind_eq_ok.1 found with ⟨others, made', same⟩
        cases same
        exact ⟨first, others, made, ih.1 made', rfl⟩
      · rintro ⟨first, others, made, made', rfl⟩
        exact ⟨first, made, by rw [ih.2 made']; rfl⟩

/-- A step for each item of a list can be made exactly when each of them can. -/
theorem exists_mapM_eq_ok {step : α → Except ε β} {items : List α} :
    (∃ results, items.mapM step = .ok results) ↔
      ∀ item ∈ items, ∃ result, step item = .ok result := by
  induction items with
  | nil => simp
  | cons item rest ih =>
      rw [List.forall_mem_cons, ← ih]
      simp only [mapM_eq_ok, List.forall₂_cons_left_iff]
      constructor
      · rintro ⟨_, first, others, made, made', rfl⟩
        exact ⟨⟨first, made⟩, others, made'⟩
      · rintro ⟨⟨first, made⟩, others, made'⟩
        exact ⟨_, first, others, made, made', rfl⟩

/-- Of two lists side by side, each item has a result beside it. -/
theorem exists_result_of_mem {related : α → β → Prop} {items : List α} {results : List β}
    (pairs : List.Forall₂ related items results) {item : α} (member : item ∈ items) :
    ∃ result ∈ results, related item result := by
  induction pairs with
  | nil => cases member
  | cons first _ ih =>
      rcases List.mem_cons.1 member with rfl | later
      · exact ⟨_, List.mem_cons_self, first⟩
      · rcases ih later with ⟨result, inside, same⟩
        exact ⟨result, List.mem_cons_of_mem _ inside, same⟩

theorem exists_item_of_mem {related : α → β → Prop} {items : List α} {results : List β}
    (pairs : List.Forall₂ related items results) {result : β} (member : result ∈ results) :
    ∃ item ∈ items, related item result :=
  exists_result_of_mem pairs.flip member

/-- A step for each item fails with the first of them that does. -/
theorem exists_first_of_mapM_eq_error {step : α → Except ε β} {items : List α} {error : ε}
    (failed : items.mapM step = .error error) :
    ∃ front item behind, items = front ++ item :: behind ∧ step item = .error error ∧
      ∀ other ∈ front, ∃ result, step other = .ok result := by
  induction items with
  | nil => cases failed
  | cons item rest ih =>
      rw [List.mapM_cons] at failed
      cases made : step item with
      | error other =>
          rw [made] at failed
          cases failed
          exact ⟨[], item, rest, rfl, made, nofun⟩
      | ok first =>
          rw [made, ok_bind] at failed
          cases others : rest.mapM step with
          | error other =>
              rw [others] at failed
              cases failed
              obtain ⟨front, later, behind, rfl, failed, fine⟩ := ih others
              exact ⟨item :: front, later, behind, rfl, failed,
                List.forall_mem_cons.2 ⟨⟨first, made⟩, fine⟩⟩
          | ok results =>
              rw [others] at failed
              cases failed

/-- A step for each item fails only where one of them does. -/
theorem exists_of_mapM_eq_error {step : α → Except ε β} {items : List α} {error : ε}
    (failed : items.mapM step = .error error) : ∃ item ∈ items, step item = .error error := by
  obtain ⟨front, item, behind, rfl, failed, -⟩ := exists_first_of_mapM_eq_error failed
  exact ⟨item, by simp, failed⟩

/-- Steps in turn fail with the first of them that does. -/
theorem exists_first_of_foldlM_eq_error {step : β → α → Except ε β} {items : List α} {start : β}
    {error : ε} (failed : items.foldlM step start = .error error) :
    ∃ front item behind before, items = front ++ item :: behind ∧
      step before item = .error error ∧
      ∀ other ∈ front, ∃ before after, step before other = .ok after := by
  induction items generalizing start with
  | nil => cases failed
  | cons item rest ih =>
      rw [List.foldlM_cons] at failed
      cases made : step start item with
      | error other =>
          rw [made] at failed
          cases failed
          exact ⟨[], item, rest, start, rfl, made, nofun⟩
      | ok next =>
          rw [made, ok_bind] at failed
          obtain ⟨front, later, behind, before, rfl, failed, fine⟩ := ih failed
          exact ⟨item :: front, later, behind, before, rfl, failed,
            List.forall_mem_cons.2 ⟨⟨start, next, made⟩, fine⟩⟩

/-- Steps in turn fail only where one of them does. -/
theorem exists_of_foldlM_eq_error {step : β → α → Except ε β} {items : List α} {start : β}
    {error : ε} (failed : items.foldlM step start = .error error) :
    ∃ item ∈ items, ∃ before, step before item = .error error := by
  obtain ⟨front, item, behind, before, rfl, failed, -⟩ := exists_first_of_foldlM_eq_error failed
  exact ⟨item, by simp, before, failed⟩

/-- A property that carries over in each step that succeeds holds after all of them. -/
theorem of_foldlM_eq_ok {step : β → α → Except ε β} {good : β → Prop} {items : List α}
    {start last : β}
    (each : ∀ {before : β} {item : α} {after : β}, step before item = .ok after →
      good before → good after)
    (run : items.foldlM step start = .ok last) (first : good start) : good last := by
  induction items generalizing start with
  | nil =>
      cases run
      exact first
  | cons item rest ih =>
      rcases bind_eq_ok.1 run with ⟨next, made, run⟩
      exact ih run (each made first)

/-! ## The error of a step -/

/-- The error that a step failed with. -/
def error? : Except ε α → Option ε
  | .error error => some error
  | .ok _ => none

theorem error?_eq_none_iff {step : Except ε α} :
    error? step = none ↔ ∃ value, step = .ok value := by
  cases step <;> simp [error?]

/-- Two steps fail with the error of the first, or else with that of the second. -/
theorem error?_bind (step : Except ε α) (next : α → Except ε β) (fault : Option ε)
    (behind : ∀ value, step = .ok value → error? (next value) = fault) :
    error? (step >>= next) = (error? step).or fault := by
  cases step with
  | error error => rfl
  | ok value => exact behind value rfl

/-- A step for each item fails with the error of the first that does. -/
theorem error?_mapM (step : α → Except ε β) (items : List α) :
    error? (items.mapM step) = items.findSome? fun item => error? (step item) := by
  induction items with
  | nil => rfl
  | cons item rest ih =>
      have onward (first : β) : error? (do return first :: (← rest.mapM step)) =
          error? (rest.mapM step) := by
        cases rest.mapM step <;> rfl
      rw [List.mapM_cons, error?_bind _ _ _ fun first _ => onward first, ih, List.findSome?_cons]
      cases error? (step item) <;> rfl

/-- Steps in turn that fail alike whatever came before fail as the first of them does. -/
theorem error?_foldlM {step : β → α → Except ε β} {fault : α → Option ε}
    (each : ∀ before item, error? (step before item) = fault item) (items : List α) (start : β) :
    error? (items.foldlM step start) = items.findSome? fault := by
  induction items generalizing start with
  | nil => rfl
  | cons item rest ih =>
      rw [List.foldlM_cons, error?_bind _ _ _ fun next _ => ih next, each, List.findSome?_cons]
      cases fault item <;> rfl

/-! ## Errors that do not occur -/

/-- A step does not fail with an error of some kind. -/
def Spares (bad : ε → Prop) (step : Except ε α) : Prop := ∀ error, step = .error error → ¬ bad error

variable {bad : ε → Prop}

theorem spares_ok (value : α) : Spares bad (.ok value) := nofun

theorem spares_error {error : ε} (good : ¬ bad error) : Spares bad (.error error : Except ε α) := by
  intro other same
  cases same
  exact good

/-- A step that does not fail with errors of one kind does not fail with those among them. -/
theorem Spares.mono {worse : ε → Prop} {step : Except ε α} (spares : Spares worse step)
    (among : ∀ error, bad error → worse error) : Spares bad step :=
  fun error failed unwanted => spares error failed (among error unwanted)

theorem spares_bind {step : Except ε α} {next : α → Except ε β} (first : Spares bad step)
    (behind : ∀ value, step = .ok value → Spares bad (next value)) : Spares bad (step >>= next) := by
  cases step with
  | error error =>
      intro other same
      cases same
      exact first error rfl
  | ok value => exact behind value rfl

theorem spares_map {image : α → β} {step : Except ε α} (first : Spares bad step) :
    Spares bad (image <$> step) :=
  spares_bind first fun value _ => spares_ok (image value)

theorem spares_mapM {step : α → Except ε β} {items : List α}
    (each : ∀ item ∈ items, Spares bad (step item)) : Spares bad (items.mapM step) := by
  intro error failed
  rcases exists_of_mapM_eq_error failed with ⟨item, inside, failed⟩
  exact each item inside error failed

/-! ## Values and errors at once -/

/-- A step gives a value of one kind or fails with an error of another. -/
def Yields (bad : ε → Prop) (good : α → Prop) : Except ε α → Prop
  | .ok value => good value
  | .error error => bad error

namespace Yields

variable {worse : ε → Prop} {good : α → Prop} {fine : β → Prop} {step : Except ε α}

theorem bind {next : α → Except ε β} (first : Yields bad good step)
    (behind : ∀ value, step = .ok value → good value → Yields bad fine (next value)) :
    Yields bad fine (step >>= next) := by
  cases step with
  | error error => exact first
  | ok value => exact behind value rfl first

theorem mono {better : α → Prop} (yields : Yields bad good step)
    (errors : ∀ error, bad error → worse error)
    (values : ∀ value, step = .ok value → good value → better value) :
    Yields worse better step := by
  cases step with
  | error error => exact errors error yields
  | ok value => exact values value rfl yields

theorem of_error {error : ε} (yields : Yields bad good step) (failed : step = .error error) :
    bad error := by
  subst failed
  exact yields

end Yields

end RecordQuery.Outcome
