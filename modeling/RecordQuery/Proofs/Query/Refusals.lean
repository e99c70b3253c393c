import RecordQuery.Proofs.Condition.Refusals
import RecordQuery.Query

/-!
# Refusals of queries

Once a statement and its selector are read, a query is refused for what its names stand for in the
schemas. So a syntax fault always comes from reading, never from binding a path, a WHERE or a
column list.
-/

namespace RecordQuery

open Outcome
open Sql (Column Expr)

/-! ## Paths -/

namespace Route

theorem spares_bindFilter (type : RecordType) (binding : Binding) (filter : Option Filter) :
    Spares QueryError.Foreign (bindFilter type binding filter) := by
  cases filter with
  | none => exact spares_ok _
  | some filter =>
      exact spares_bind (Condition.spares_foreign filter.expr binding) fun _ _ => spares_ok _

theorem spares_bindAt (label : String) (schema : Schema) (path : Path) (binding : Binding) :
    Spares QueryError.Foreign (bindAt label schema path binding) := by
  induction path generalizing label schema binding with
  | leaf filter =>
      rw [bindAt]
      split
      · exact spares_bind (spares_bindFilter _ binding filter) fun _ _ => spares_ok _
      · split
        · exact spares_error id
        · exact spares_ok _
  | step filter name next ih =>
      rw [bindAt]
      split
      · refine spares_bind (spares_bindFilter _ binding filter) fun bound _ => ?_
        dsimp only
        split
        · exact spares_error id
        · exact spares_bind (ih _ _ _) fun _ _ => spares_ok _
      · exact spares_error id

end Route

namespace Query

/-- Binding a path and the WHERE on its leaves meets no syntax fault. -/
theorem spares_bindPath (root : Schema) (path : Path) (filter : Option Expr) :
    Spares QueryError.Foreign (bindPath root path filter) := by
  refine spares_bind (Route.spares_bindAt _ root path .empty) fun pair _ => ?_
  rcases pair with ⟨route, binding⟩
  cases filter with
  | none => exact spares_ok _
  | some filter =>
      dsimp only
      split
      · exact spares_error id
      · exact spares_bind (Condition.spares_foreign filter binding) fun _ _ => spares_ok _

end Query

/-! ## Column lists -/

theorem ColumnSource.spares_ofColumn (column : Column) :
    Spares QueryError.Foreign (ofColumn column) := by
  unfold ofColumn
  split
  · exact spares_ok _
  · split
    · exact spares_error id
    · split
      · exact spares_ok _
      · exact spares_ok _
      · exact spares_error id
      · exact spares_error id
  · exact spares_error id
  · exact spares_error id

theorem ColumnCopy.spares_make (source dest : Accessor) (aggregate : Bool) :
    Spares QueryError.Foreign (make source dest aggregate) := by
  refine spares_bind ?_ fun _ _ => spares_ok _
  unfold Strategy.resolve
  split
  · split
    · split
      · exact spares_ok _
      · exact spares_error id
    · exact spares_error id
  · split
    · exact spares_ok _
    · split
      · exact spares_ok _
      · exact spares_error id

namespace Projection

variable {dest : Option RecordType}

theorem spares_destination (row : RecordType) (name : String) (schema : Schema) :
    Spares QueryError.Foreign (destination dest row name schema) := by
  unfold destination
  split
  · split
    · exact spares_ok _
    · exact spares_error id
  · split
    · exact spares_error id
    · exact spares_ok _

theorem spares_copies (source row : RecordType) (columns : List Column) :
    Spares QueryError.Foreign (copies source dest row columns) := by
  induction columns generalizing row with
  | nil => exact spares_ok _
  | cons column rest ih =>
      refine spares_bind (ColumnSource.spares_ofColumn column) fun wanted _ => ?_
      split
      · exact spares_error id
      · refine spares_bind (spares_destination row _ _) fun target _ => ?_
        refine spares_bind (ColumnCopy.spares_make _ target.1 _) fun copy _ => ?_
        exact spares_bind (ih target.2) fun _ _ => spares_ok _

theorem spares_copiesByName (source : RecordType) (targets : List Accessor) :
    Spares QueryError.Foreign (copiesByName source targets) := by
  induction targets with
  | nil => exact spares_ok _
  | cons target rest ih =>
      rw [copiesByName]
      split
      · exact spares_error id
      · refine spares_bind (ColumnCopy.spares_make _ target _) fun copy _ => ?_
        exact spares_bind ih fun _ _ => spares_ok _

/-- Compiling a column list meets no syntax fault. -/
theorem spares_foreign (source : Schema) (columns : List Column) :
    Spares QueryError.Foreign (compile source columns dest) := by
  unfold compile
  split
  · split
    · exact spares_error id
    · unfold ofStar
      split
      · exact spares_ok _
      · split
        · exact spares_error id
        · exact spares_bind (spares_copiesByName _ _) fun _ _ => spares_ok _
  · split
    · exact spares_error id
    · exact spares_bind (spares_copies _ _ _) fun _ _ => spares_ok _

end Projection

end RecordQuery
