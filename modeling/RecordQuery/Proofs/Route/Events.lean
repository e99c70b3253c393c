import RecordQuery.Proofs.Trail
import RecordQuery.Route.Walk

/-!
# What a walk meets

A walk along a route meets records, where it goes on, and leaves, where it ends. The three
walks of a route, which count, project and visit, are the same walk: each of them is its
trail of events put to another use.
-/

namespace RecordQuery

/-- What a walk comes to at one point of a route. -/
inductive Event where
  | record (route : Route) (value : Value)
  | leaf (value : Value)

namespace Event

def leaf? : Event → Option Value
  | .record .. => none
  | .leaf value => some value

end Event

namespace Route

variable {σ : Type} {arguments : Arguments}

/-- The trail of a record or leaf: nothing where it is null or does not pass the filter of
its point. -/
def whenPassed {α : Type} (arguments : Arguments) (filter : Option Condition) (value : Value)
    (next : Trail α) : Trail α :=
  if value.isNull then .empty
  else .after (passes filter value arguments) fun passed => if passed then next else .empty

/-- The trail of the value of a field, which may be absent. -/
def whenPresent {α : Type} (field : Accessor) (record : Value) (next : Value → Trail α) : Trail α :=
  .after (field.get record) fun found =>
    match found with
    | some item => next item
    | none => .empty

/-- The trail of the elements of an array, which may be null. -/
def throughElements {α : Type} (label : String) (value : Value) (next : Value → Trail α) :
    Trail α :=
  if value.isNull then .empty else .after (elements label value) (.all next)

/-- The records and leaves that a walk meets, in order, each record before what lies below
it. -/
def events (arguments : Arguments) : Route → Value → Trail Event
  | .leaf label schema filter, value =>
      whenPassed arguments filter value <|
        (if value.isObject then .one (.record (.leaf label schema filter) value) else .empty) ++
          .one (.leaf value)
  | .descend label schema filter field next, value =>
      whenPassed arguments filter value <|
        .one (.record (.descend label schema filter field next) value) ++
          whenPresent field value (next.events arguments)
  | .each label _ next, value => throughElements label value (next.events arguments)

/-- The leaves that a walk meets, in order. -/
def trail (arguments : Arguments) (route : Route) (value : Value) : Trail Value :=
  (route.events arguments value).filterMap Event.leaf?

/-! ## The leaves at each kind of point -/

@[simp] theorem filterMap_whenPassed {α β : Type} (image : α → Option β) (filter : Option Condition)
    (value : Value) (next : Trail α) :
    (whenPassed arguments filter value next).filterMap image =
      whenPassed arguments filter value (next.filterMap image) := by
  simp only [whenPassed]
  split
  · rfl
  · rw [Trail.filterMap_after]
    congr 1
    funext passed
    cases passed <;> rfl

@[simp] theorem filterMap_whenPresent {α β : Type} (image : α → Option β) (field : Accessor)
    (record : Value) (next : Value → Trail α) :
    (whenPresent field record next).filterMap image =
      whenPresent field record fun item => (next item).filterMap image := by
  simp only [whenPresent, Trail.filterMap_after]
  congr 1
  funext found
  cases found <;> rfl

@[simp] theorem filterMap_throughElements {α β : Type} (image : α → Option β) (label : String)
    (value : Value) (next : Value → Trail α) :
    (throughElements label value next).filterMap image =
      throughElements label value fun item => (next item).filterMap image := by
  simp only [throughElements]
  split
  · rfl
  · rw [Trail.filterMap_after]
    congr 1
    funext items
    exact Trail.filterMap_all image next items

@[simp] theorem trail_leaf (label : String) (schema : Schema) (filter : Option Condition)
    (value : Value) :
    (Route.leaf label schema filter).trail arguments value =
      whenPassed arguments filter value (.one value) := by
  rw [trail, events, filterMap_whenPassed, Trail.filterMap_append]
  cases value.isObject <;> rfl

@[simp] theorem trail_descend (label : String) (schema : Schema) (filter : Option Condition)
    (field : Accessor) (next : Route) (value : Value) :
    (Route.descend label schema filter field next).trail arguments value =
      whenPassed arguments filter value (whenPresent field value (next.trail arguments)) := by
  rw [trail, events, filterMap_whenPassed, Trail.filterMap_append, filterMap_whenPresent]
  rfl

@[simp] theorem trail_each (label : String) (schema : Schema) (next : Route) (value : Value) :
    (Route.each label schema next).trail arguments value =
      throughElements label value (next.trail arguments) := by
  rw [trail, events, filterMap_throughElements]
  rfl

end Route

end RecordQuery
