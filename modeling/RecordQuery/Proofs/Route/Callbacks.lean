import RecordQuery.Proofs.Route.Agreement
import RecordQuery.Proofs.Route.Preorder

/-!
# Callbacks of a walk

A walk calls its visitors with the events of the points that it comes to, in preorder. A callback
that is left out is passed over, and one that fails ends the walk. So the calls of any walk are the
first calls of the walk with the same callbacks of which none fails.
-/

namespace RecordQuery.Route

variable {σ : Type} {arguments : Arguments}

namespace Visitors

/-- Whether there is a callback for an event. -/
def hears (visitors : Visitors σ) : Event → Bool
  | .record .. => visitors.record.isSome
  | .leaf _ => visitors.leaf.isSome

/-- Notes an event, then makes the call for it. -/
def logged (event : Event) (call : ExceptT QueryError (StateM σ) Unit) :
    ExceptT QueryError (StateM (σ × List Event)) Unit :=
  fun (state, log) =>
    let (outcome, next) := call.run.run state
    (outcome, next, log ++ [event])

/-- The callbacks of some visitors with a log of their calls. -/
def logging (visitors : Visitors σ) : Visitors (σ × List Event) where
  leaf := visitors.leaf.map fun visit value => logged (.leaf value) (visit value)
  record := visitors.record.map fun visit route value =>
    logged (.record route value) (visit route value)

/-- The outcomes of calls made one after the other, each in the state that the call before it
leaves behind. -/
def outcomes (visitors : Visitors σ) : σ → List Event → List (QueryResult Unit)
  | _, [] => []
  | state, event :: rest =>
      let (outcome, next) := (visitors.call event).run.run state
      outcome :: visitors.outcomes next rest

variable (visitors : Visitors σ)

/-! ## Calls of a trail -/

theorem call_of_not_hears {visitors : Visitors σ} {event : Event}
    (deaf : visitors.hears event = false) : visitors.call event = pure () := by
  cases event with
  | record route value =>
      rw [hears, Option.isSome_eq_false_iff, Option.isNone_iff_eq_none] at deaf
      rw [call, onRecord, deaf]
  | leaf value =>
      rw [hears, Option.isSome_eq_false_iff, Option.isNone_iff_eq_none] at deaf
      rw [call, onLeaf, deaf]

theorem hears_logging (event : Event) : visitors.logging.hears event = visitors.hears event := by
  cases event <;> simp [hears, logging]

theorem call_logging {event : Event} (heard : visitors.hears event = true) :
    visitors.logging.call event = logged event (visitors.call event) := by
  cases event with
  | record route value =>
      rcases Option.isSome_iff_exists.1 heard with ⟨visit, here⟩
      simp only [call, onRecord, logging, here, Option.map_some]
  | leaf value =>
      rcases Option.isSome_iff_exists.1 heard with ⟨visit, here⟩
      simp only [call, onLeaf, logging, here, Option.map_some]

/-- Events without a callback are passed over. -/
theorem play_call (trail : Trail Event) :
    trail.play visitors.call =
      (Trail.mk (trail.items.filter visitors.hears) trail.fault).play visitors.call := by
  rcases trail with ⟨items, fault⟩
  simp only [Trail.play]
  congr 1
  induction items with
  | nil => rfl
  | cons event rest ih =>
      cases heard : visitors.hears event with
      | true =>
          rw [List.filter_cons_of_pos heard]
          simp only [List.forM_eq_forM, List.forM_cons] at ih ⊢
          rw [ih]
      | false =>
          rw [List.filter_cons_of_neg (Bool.eq_false_iff.1 heard)]
          simp only [List.forM_eq_forM, List.forM_cons] at ih ⊢
          rw [call_of_not_hears heard, pure_bind, ih]

/-! ## Calls up to a failure -/

/-- A walk has made calls up to the first one that fails, whose error it fails with. If none fails,
it has made all of them, and fails only for a fault of its own. -/
structure EndsWith (calls : List Event) (outcomes : List (QueryResult Unit))
    (fault : Option QueryError) (outcome : QueryResult Unit) (log : List Event) : Prop where
  aborted : ∀ index error, outcomes[index]? = some (.error error) →
    (∀ earlier < index, outcomes[earlier]? = some (.ok ())) →
    outcome = .error error ∧ log = calls.take (index + 1)
  finished : (∀ each ∈ outcomes, each = .ok ()) →
    outcome = fault.elim (.ok ()) .error ∧ log = calls

variable {calls log : List Event} {outcomes : List (QueryResult Unit)} {fault : Option QueryError}
  {outcome : QueryResult Unit} {event : Event} {error : QueryError}

theorem EndsWith.nil (fault : Option QueryError) :
    EndsWith [] [] fault (fault.elim (.ok ()) .error) [] where
  aborted := nofun
  finished := fun _ => ⟨rfl, rfl⟩

theorem EndsWith.cons_error :
    EndsWith (event :: calls) (.error error :: outcomes) fault (.error error) [event] where
  aborted := by
    intro index other failed fine
    cases index with
    | zero =>
        cases failed
        exact ⟨rfl, rfl⟩
    | succ index => cases fine 0 (Nat.zero_lt_succ _)
  finished := by
    intro fine
    cases fine _ List.mem_cons_self

theorem EndsWith.cons_ok (later : EndsWith calls outcomes fault outcome log) :
    EndsWith (event :: calls) (.ok () :: outcomes) fault outcome (event :: log) where
  aborted := by
    intro index error failed fine
    cases index with
    | zero => cases failed
    | succ index =>
        have ended := later.aborted index error failed fun earlier front =>
          fine (earlier + 1) (Nat.succ_lt_succ front)
        exact ⟨ended.1, congrArg (event :: ·) ended.2⟩
  finished := by
    intro fine
    have ended := later.finished fun each member => fine each (List.mem_cons_of_mem _ member)
    exact ⟨ended.1, congrArg (event :: ·) ended.2⟩

/-- Keeping a log changes nothing else, and the log ends with the calls that have been made. -/
theorem play_logging (fault : Option QueryError) (state : σ) (log : List Event)
    (heard : ∀ event ∈ calls, visitors.hears event = true) :
    ∃ outcome final made,
      ((Trail.mk calls fault).play visitors.call).run.run state = (outcome, final) ∧
      ((Trail.mk calls fault).play visitors.logging.call).run.run (state, log) =
        (outcome, final, log ++ made) ∧
      EndsWith calls (visitors.outcomes state calls) fault outcome made := by
  -- On the calls, each of which starts from the state that the one before it has left.
  induction calls generalizing state log with
  | nil =>
      refine ⟨_, state, [], ?_, ?_, .nil fault⟩
      · cases fault <;> rfl
      · rw [List.append_nil]
        cases fault <;> rfl
  | cons event rest ih =>
      rw [List.forall_mem_cons] at heard
      have split {τ : Type} (visitors : Visitors τ) :
          (Trail.mk (event :: rest) fault).play visitors.call =
            (do visitors.call event; (Trail.mk rest fault).play visitors.call) := by
        simp [Trail.play]
      have first : (visitors.logging.call event).run.run (state, log) =
          let (outcome, next) := (visitors.call event).run.run state
          (outcome, next, log ++ [event]) := by
        rw [call_logging visitors heard.1]
        rfl
      rw [split, split, ExceptT.run_bind, ExceptT.run_bind, StateT.run_bind, StateT.run_bind, first,
        Visitors.outcomes]
      rcases (visitors.call event).run.run state with ⟨_ | _, next⟩
      · exact ⟨_, next, [event], rfl, rfl, .cons_error⟩
      · rcases ih next (log ++ [event]) heard.2 with ⟨outcome, final, made, plain, logged, ended⟩
        refine ⟨outcome, final, event :: made, plain, ?_, ended.cons_ok⟩
        rw [List.append_assoc] at logged
        exact logged

end Visitors

/-- Whatever its callbacks are, a walk along a route makes the calls for the points that it comes
to, in preorder, up to the first call that fails. Callbacks that are left out are passed over. -/
theorem visit_in_preorder (arguments : Arguments) (route : Route) (value : Value) :
    ∃ points stop, Point.InPreorder arguments (Point.Reaches arguments ⟨route, value⟩) points stop ∧
      ∀ (σ : Type) (visitors : Visitors σ) (state : σ),
        let calls := (points.flatMap (·.2.events)).filter visitors.hears
        ∃ outcome final log,
          (route.visit arguments visitors value).run.run state = (outcome, final) ∧
          (route.visit arguments visitors.logging value).run.run (state, []) =
            (outcome, final, log) ∧
          Visitors.EndsWith calls (visitors.outcomes state calls) (stop.map (·.2)) outcome log := by
  rcases Point.walks arguments route value with ⟨points, stop, walk, same⟩
  refine ⟨points, stop, walk, fun σ visitors state => ?_⟩
  have heard : visitors.logging.hears = visitors.hears := funext visitors.hears_logging
  rw [visit_eq_play, visit_eq_play, Visitors.play_call, Visitors.play_call visitors.logging, heard,
    same]
  exact visitors.play_logging _ state [] fun event member => (List.mem_filter.1 member).2

end RecordQuery.Route
