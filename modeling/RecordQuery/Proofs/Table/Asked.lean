import RecordQuery.Proofs.Condition.Refusals
import RecordQuery.Proofs.Sql.Placeholders
import RecordQuery.Proofs.Table.Casts
import RecordQuery.Proofs.Table.Run

/-!
# The placeholders that a run asks for

A run over a table takes one argument after the other: first for the placeholders that the columns
of the flat SELECT cast, then for those of its condition. Folding SELECTs into each other can change
the order of these placeholders, repeat or drop them. Those of columns still stand before those of
the condition in the text, and the latter still follow one another.
-/

namespace RecordQuery

open Sql (Expr Column)

/-! ## Folded SELECTs -/

namespace Sql

/-- The numbers of the placeholders that a flat SELECT asks for, in the order in which it takes
arguments for them. -/
def Select.asked (select : Select) : List Nat :=
  select.columns.flatMap Column.asked ++ filterPlaceholders select.filter

/-- A column asks only for placeholders that it has. -/
theorem mem_placeholders_of_asked {column : Column} {index : Nat} (inside : index ∈ column.asked) :
    index ∈ column.placeholders := by
  rcases RowPlan.asked_cases column with none | ⟨only, asks⟩
  · rw [none] at inside
    cases inside
  · rw [asks] at inside
    cases List.mem_singleton.1 inside
    cases column with
    | call name parts label =>
        rw [Column.asked] at asks
        split at asks
        · rw [castPlaceholder.eq_def] at asks
          split at asks
          · cases asks
            exact List.mem_cons_self
          · cases asks
        · cases asks
    | _ => cases asks

/-- A column of a folded SELECT is one of the inner or of the outer SELECT. -/
theorem mem_columns_of_merge {outer inner : Select} {column : Column}
    (inside : column ∈ (outer.merge inner).columns) :
    column ∈ inner.columns ∨ column ∈ outer.columns := by
  rw [Select.merge] at inside
  dsimp only at inside
  split at inside
  · exact .inl inside
  · rcases List.mem_map.1 inside with ⟨own, member, rfl⟩
    rw [Column.resolve]
    cases found : inner.columns.find? fun candidate =>
        !own.outputName.isEmpty && candidate.outputName == own.outputName with
    | none => exact .inr member
    | some candidate => exact .inl (List.mem_of_find?_eq_some found)

/-- In a folded SELECT the placeholders of the condition follow one another, behind all those that
columns ask for. -/
theorem Select.asked_flatten {start count : Nat} (select : Select)
    (numbered : select.placeholders = List.range' start count) :
    ∃ place width, filterPlaceholders select.flatten.filter = List.range' place width ∧
      start ≤ place ∧ place + width ≤ start + count ∧
      ∀ column ∈ select.flatten.columns, ∀ index ∈ column.asked, start ≤ index ∧ index < place := by
  -- Placeholders of columns that stand in a row are within it.
  have within {columns : List Column} {start : Nat}
      (row : columnPlaceholders columns = List.range' start (columnPlaceholders columns).length)
      {column : Column} (member : column ∈ columns) {index : Nat} (asks : index ∈ column.asked) :
      start ≤ index ∧ index < start + (columnPlaceholders columns).length := by
    have inside : index ∈ columnPlaceholders columns :=
      List.mem_flatMap.2 ⟨column, member, mem_placeholders_of_asked asks⟩
    rw [row] at inside
    exact List.mem_range'_1.1 inside
  fun_induction Select.flatten select generalizing start count with
  | case1 columns name offset filter limit =>
      rcases split_range' numbered with ⟨list, condition, total⟩
      refine ⟨_, _, condition, Nat.le_add_right _ _, by omega, ?_⟩
      intro column member index asks
      exact within list member asks
  | case2 columns inner offset filter limit ih =>
      rcases split_range' numbered with ⟨list, behind, total⟩
      rcases split_range' behind with ⟨nested, condition, totalBehind⟩
      rcases ih nested with ⟨place, width, row, low, high, before⟩
      -- The columns of both SELECTs stand before the inner condition and before the outer one.
      have columnsBefore {bound : Nat} (outside : place ≤ bound) (column : Column)
          (member : column ∈ (Select.merge ⟨columns, .nested inner, offset, filter, limit⟩
            inner.flatten).columns) (index : Nat) (asks : index ∈ column.asked) :
          start ≤ index ∧ index < bound := by
        rcases mem_columns_of_merge member with member | member
        · have := before column member index asks
          omega
        · have := within list member asks
          omega
      cases filter with
      | none => exact ⟨place, width, row, by omega, by omega, columnsBefore (Nat.le_refl _)⟩
      | some expr =>
          exact ⟨_, _, condition, by omega, by omega, columnsBefore (by omega)⟩

/-- If as many placeholders are asked for as the text has, but not in the order of the text, then
some column asks for another one than the one at its place. -/
theorem Select.exists_misplaced {select : Select} {place width count : Nat}
    (row : filterPlaceholders select.filter = List.range' place width)
    (high : place + width ≤ count)
    (before : ∀ column ∈ select.columns, ∀ index ∈ column.asked, index < place)
    (all : select.asked.length = count) (other : select.asked ≠ List.range count) :
    ∃ position index, (select.columns.flatMap Column.asked)[position]? = some index ∧
      index ≠ position ∧ index < count := by
  by_contra none
  push Not at none
  have ordered {position index : Nat}
      (here : (select.columns.flatMap Column.asked)[position]? = some index) :
      index = position ∧ index < place := by
    rcases List.mem_flatMap.1 (List.mem_of_getElem? here) with ⟨column, member, asks⟩
    have less := before column member index asks
    exact ⟨by_contra fun differs => absurd (none position index here differs) (by omega), less⟩
  have list : select.columns.flatMap Column.asked =
      List.range (select.columns.flatMap Column.asked).length := by
    refine List.ext_getElem (by simp) fun position inside _ => ?_
    rw [List.getElem_range]
    exact (ordered (List.getElem?_eq_getElem inside)).1
  rw [Select.asked, row, List.length_append, List.length_range'] at all
  have last : (select.columns.flatMap Column.asked).length ≤ place := by
    rcases Nat.eq_zero_or_pos (select.columns.flatMap Column.asked).length with empty | some
    · omega
    · have inside : (select.columns.flatMap Column.asked).length - 1 <
          (select.columns.flatMap Column.asked).length := by omega
      have := ordered (List.getElem?_eq_getElem inside)
      omega
  have same : place = (select.columns.flatMap Column.asked).length := by omega
  apply other
  calc select.asked
    _ = List.range' 0 place ++ List.range' place width := by
        rw [Select.asked, row, list, ← same, List.range_eq_range']
    _ = List.range count := by
        rw [← all, ← same, List.range_eq_range', ← List.range'_append_1, Nat.zero_add]

end Sql

/-! ## Refusals for the number of arguments -/

open Outcome

/-- The error says that there are too many or too few arguments. -/
def TableError.OfCount : TableError → Prop
  | .query error => error.OfCount
  | .argument (.missingCastArgument _) => True
  | _ => False

theorem TableResult.spares_ofQuery {α : Type} {step : QueryResult α}
    (spares : Spares QueryError.OfCount step) :
    Spares TableError.OfCount (TableResult.ofQuery step) := by
  cases step with
  | error error => exact spares_error (spares error rfl)
  | ok value => exact spares_ok _

namespace RowPlan

variable {now : Instant} {type : RecordType} {args : List Value}

theorem spares_requireLabel (label : Option String) (expr : Expr) :
    Spares TableError.OfCount (requireLabel label expr) := by
  cases label with
  | none => exact spares_error id
  | some label => exact spares_ok _

theorem spares_ofName (name : String) :
    Spares TableError.OfCount (ColumnFunction.ofName name) := by
  rw [ColumnFunction.ofName]
  split
  · exact spares_ok _
  · split
    · exact spares_ok _
    · exact spares_error id

theorem spares_castParts (label : String) (parts : List Expr) :
    Spares TableError.OfCount (castParts label parts) := by
  rw [castParts.eq_def]
  split
  · split
    · exact spares_ok _
    · exact spares_error id
  · exact spares_error id

theorem spares_cast (kind : ScalarKind) (label : String) (value : Value) :
    Spares TableError.OfCount (kind.cast label value) := by
  rw [ScalarKind.cast]
  split
  · exact spares_ok _
  · exact spares_error id

theorem spares_sourceGiven (given : Nat → Value) (label : String) (source : Expr) :
    Spares TableError.OfCount (sourceGiven given label source) := by
  rw [sourceGiven.eq_def]
  split
  · exact spares_ok _
  · split
    · exact spares_ok _
    · exact spares_error id

/-- A column with a value for its placeholder is not refused for the number of arguments. -/
theorem spares_shown (given : Nat → Value) (column : Column) :
    Spares TableError.OfCount (shown now type given column) := by
  cases column with
  | star => exact spares_ok _
  | field name label =>
      rw [shown]
      split
      · exact spares_ok _
      · exact spares_error id
  | expression expr label =>
      refine spares_bind ?_ fun column _ => spares_ok _
      refine spares_bind (spares_requireLabel label expr) fun name _ => ?_
      split
      · exact spares_error id
      · split
        · exact spares_error id
        · exact spares_ok _
  | call name parts label =>
      refine spares_bind (spares_ofName name) fun function _ => ?_
      cases function with
      | now => exact spares_ok _
      | cast =>
          refine spares_bind (spares_castParts _ parts) fun pair _ => ?_
          refine spares_bind (spares_sourceGiven given _ pair.2) fun value _ => ?_
          exact spares_bind (spares_cast pair.1 _ value) fun value _ => spares_ok _

theorem spares_shownFrom (taken : Nat) (columns : List Column) :
    Spares TableError.OfCount (shownFrom now type args taken columns) := by
  induction columns generalizing taken with
  | nil => exact spares_ok _
  | cons column rest ih =>
      refine spares_bind (spares_shown _ column) fun first _ => ?_
      exact spares_bind (ih _) fun others _ => spares_ok _

/-- A column list with enough arguments is not refused for their number. -/
theorem spares_compile {columns : List Column} (enough : askedCount columns ≤ args.length) :
    Spares TableError.OfCount (compile ⟨now, type, args⟩ columns) := by
  rw [compile, foldlM_add_eq_shownFrom (by simpa using enough)]
  exact spares_map (spares_shownFrom 0 columns)

/-- The type that a column list tells does not depend on arguments. -/
theorem spares_detect (table : String) (columns : List Column) :
    Spares TableError.OfCount (RecordType.detect table columns) := by
  refine spares_bind (spares_mapM fun column _ => ?_) fun fields _ => spares_ok _
  cases column with
  | star | field name label => exact spares_error id
  | expression expr label =>
      refine spares_bind (spares_requireLabel label expr) fun name _ => ?_
      split
      · exact spares_ok _
      · exact spares_error id
  | call name parts label =>
      refine spares_bind (spares_ofName name) fun function _ => ?_
      cases function with
      | now => exact spares_ok _
      | cast => exact spares_bind (spares_castParts _ parts) fun pair _ => spares_ok _

end RowPlan

end RecordQuery
