import RecordQuery.Proofs.Outcome
import RecordQuery.Table.Error

/-!
# Outcomes that agree

A caller acts on the kind of an error, and shows its text. Two runs agree where both succeed with
related values, or both fail with errors of one kind, whatever names and values the texts show.
-/

namespace RecordQuery

/-- What a caller tells apart among the errors of queries. -/
inductive QueryError.Kind where
  | parse
  | resolution
  | compile
  | execution

def QueryError.kind : QueryError → Kind
  | .parse _ => .parse
  | .resolution _ => .resolution
  | .compile _ => .compile
  | .execution _ _ => .execution

/-- What a caller tells apart among the errors of tables. -/
inductive TableError.Kind where
  | query (kind : QueryError.Kind)
  | file
  | location
  | statement
  | untyped
  | resource
  | line
  | argument

def TableError.kind : TableError → Kind
  | .query error => .query error.kind
  | .file _ => .file
  | .location _ => .location
  | .statement _ => .statement
  | .untyped _ _ => .untyped
  | .resource _ => .resource
  | .line _ _ _ => .line
  | .argument _ => .argument

namespace Outcome

variable {ε κ α β γ δ : Type} {kind : ε → κ}

/-- Both outcomes are values that are related, or both are errors of one kind. -/
inductive Agree (kind : ε → κ) (related : α → β → Prop) : Except ε α → Except ε β → Prop where
  | ok {value : α} {other : β} (here : related value other) :
      Agree kind related (.ok value) (.ok other)
  | error {first second : ε} (same : kind first = kind second) :
      Agree kind related (.error first) (.error second)

namespace Agree

variable {related weaker : α → β → Prop} {behind : γ → δ → Prop} {first : Except ε α}
  {second : Except ε β}

theorem refl (outcome : Except ε α) : Agree kind Eq outcome outcome := by
  cases outcome with
  | ok value => exact .ok rfl
  | error error => exact .error rfl

theorem imp (agree : Agree kind related first second)
    (each : ∀ {value other}, first = .ok value → second = .ok other → related value other →
      weaker value other) :
    Agree kind weaker first second := by
  cases agree with
  | ok here => exact .ok (each rfl rfl here)
  | error same => exact .error same

theorem bind {next : α → Except ε γ} {other : β → Except ε δ}
    (agree : Agree kind related first second)
    (each : ∀ {value given}, related value given → Agree kind behind (next value) (other given)) :
    Agree kind behind (first >>= next) (second >>= other) := by
  cases agree with
  | ok here => exact each here
  | error same => exact .error same

theorem map {image : α → γ} {other : β → δ} (agree : Agree kind related first second)
    (each : ∀ {value given}, related value given → behind (image value) (other given)) :
    Agree kind behind (image <$> first) (other <$> second) :=
  agree.bind fun here => .ok (each here)

/-- Steps for items side by side agree where each of them does. -/
theorem mapM {beside : α → β → Prop} {step : α → Except ε γ} {other : β → Except ε δ}
    {items : List α} {others : List β} (pairs : List.Forall₂ beside items others)
    (each : ∀ {item given}, beside item given → Agree kind behind (step item) (other given)) :
    Agree kind (List.Forall₂ behind) (items.mapM step) (others.mapM other) := by
  induction pairs with
  | nil => exact .ok .nil
  | cons here _ ih =>
      rw [List.mapM_cons, List.mapM_cons]
      exact (each here).bind fun head => ih.bind fun tail => .ok (.cons head tail)

/-- Steps in turn agree where each of them does from states that agree. -/
theorem foldlM {beside : α → β → Prop} {state : γ → δ → Prop} {step : γ → α → Except ε γ}
    {other : δ → β → Except ε δ} {items : List α} {others : List β}
    (pairs : List.Forall₂ beside items others)
    (each : ∀ {item given before start}, beside item given → state before start →
      Agree kind state (step before item) (other start given)) {before : γ} {start : δ}
    (begin_ : state before start) :
    Agree kind state (items.foldlM step before) (others.foldlM other start) := by
  induction pairs generalizing before start with
  | nil => exact .ok begin_
  | cons here _ ih =>
      rw [List.foldlM_cons, List.foldlM_cons]
      exact (each here begin_).bind ih

end Agree

end Outcome

/-- Answers of queries that agree do so as answers about tables. -/
theorem TableResult.ofQuery_agree {α β : Type} {related : α → β → Prop} {first : QueryResult α}
    {second : QueryResult β} (agree : Outcome.Agree QueryError.kind related first second) :
    Outcome.Agree TableError.kind related (ofQuery first) (ofQuery second) := by
  cases agree with
  | ok here => exact .ok here
  | error same => exact .error (congrArg TableError.Kind.query same)

end RecordQuery
