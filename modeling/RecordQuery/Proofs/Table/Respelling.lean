import RecordQuery.Proofs.Condition.Respelling
import RecordQuery.Proofs.Table.Calls

/-!
# Tables in several spellings

A table may spell the keys of its records, and a SELECT the fields of its table, in any way, as
long as the names stay loosely equal. Both are matched loosely at every place where a name counts:
in the column list, in the WHERE, and where a line is brought into the shape of the type. So two
runs that differ in spelling only show the same rows. What stays of the spelling are the keys of
objects that stand where the type declares no record.
-/

namespace RecordQuery

open Outcome (Agree)
open Sql (Expr Column)

/-! ## Column lists -/

namespace Sql

/-- The type that the arguments of a cast name; it is spelled like a field, but is none. -/
def castTarget? : List Expr → Option String
  | [_, .column target] => some target
  | _ => none

/-- Entries of column lists that differ in nothing but the spelling of fields. The name of a table
in front of a field does not count. -/
inductive Column.Respelled : Column → Column → Prop where
  | star : Respelled .star .star
  | field (label : Option String) {name other : String}
      (loosely : looseName (unqualified name) = looseName (unqualified other)) :
      Respelled (.field name label) (.field other label)
  | expression (label : Option String) {expr other : Expr} (inside : expr.Respelled other) :
      Respelled (.expression expr label) (.expression other label)
  | call (name : String) (label : Option String) {args others : List Expr}
      (each : List.Forall₂ Expr.Respelled args others)
      (target : castTarget? args = castTarget? others) :
      Respelled (.call name args label) (.call name others label)

/-- SELECTs from one table that differ in nothing but the spelling of fields. -/
structure Select.Respelled (select other : Select) : Prop where
  columns : List.Forall₂ Column.Respelled select.columns other.columns
  table : select.table? = other.table?
  filter : Option.Rel Expr.Respelled select.filter other.filter
  limit : select.limit = other.limit

end Sql

namespace RowPlan

variable {context : Context} {args others : List Expr} {expr other : Expr} {label : String}

theorem castParts_of_target_none (none : Sql.castTarget? args = none) :
    castParts label args = .error (.statement (.castArguments label args)) := by
  rw [castParts.eq_def]
  split
  · cases none
  · rfl

theorem exists_castSource {target : String} (named : Sql.castTarget? args = some target) :
    ∃ source, args = [source, .column target] := by
  rw [Sql.castTarget?.eq_def] at named
  split at named
  · cases named
    exact ⟨_, rfl⟩
  · cases named

/-- A cast names the same kind, and starts from the same source but for its spelling. -/
theorem castParts_agree (each : List.Forall₂ Expr.Respelled args others)
    (target : Sql.castTarget? args = Sql.castTarget? others) :
    Agree TableError.kind (fun parts given => parts.1 = given.1 ∧ parts.2.Respelled given.2)
      (castParts label args) (castParts label others) := by
  cases named : Sql.castTarget? others with
  | none =>
      rw [castParts_of_target_none (target.trans named), castParts_of_target_none named]
      exact .error rfl
  | some kind =>
      rcases exists_castSource (target.trans named) with ⟨source, rfl⟩
      rcases exists_castSource named with ⟨other, rfl⟩
      rcases List.forall₂_cons.1 each with ⟨respelled, -⟩
      rw [castParts, castParts]
      split
      · exact .ok ⟨rfl, respelled⟩
      · exact .error rfl

theorem castSource_agree (respelled : expr.Respelled other) (consumed : Nat) :
    Agree TableError.kind Eq (castSource context label consumed expr)
      (castSource context label consumed other) := by
  cases respelled with
  | same => exact .refl _
  | _ => exact .error rfl

theorem ofExpression_agree (respelled : expr.Respelled other) (label : Option String) :
    Agree TableError.kind Eq (ofExpression expr label) (ofExpression other label) := by
  cases label with
  | none => exact .error rfl
  | some label =>
      rw [ofExpression, ofExpression, respelled.literal?_eq]
      cases other.literal? with
      | none => exact .error rfl
      | some value => exact .refl _

theorem ofCall_agree (name : String) (each : List.Forall₂ Expr.Respelled args others)
    (target : Sql.castTarget? args = Sql.castTarget? others) (label : Option String)
    (consumed : Nat) :
    Agree TableError.kind Eq (ofCall context name args label consumed)
      (ofCall context name others label consumed) := by
  refine (Agree.refl (ColumnFunction.ofName name)).bind ?_
  rintro function _ rfl
  cases function with
  | now => exact .refl _
  | cast =>
      refine (castParts_agree each target).bind ?_
      rintro ⟨kind, source⟩ ⟨_, second⟩ ⟨rfl, respelled⟩
      refine (castSource_agree respelled consumed).bind ?_
      rintro found _ rfl
      exact .refl _

theorem add_agree (distinct : context.type.LooselyDistinct) {column second : Column}
    (respelled : column.Respelled second) (plan : RowPlan) :
    Agree TableError.kind Eq (add context plan column) (add context plan second) := by
  cases respelled with
  | star => exact .refl _
  | field label loosely =>
      rw [add, add, distinct.looseField?_congr loosely]
      split
      · exact .ok rfl
      · exact .error rfl
  | expression label inside =>
      refine (ofExpression_agree inside label).bind ?_
      rintro made _ rfl
      exact .ok rfl
  | call name label each target =>
      refine (ofCall_agree name each target label plan.consumed).bind ?_
      rintro made _ rfl
      exact .ok rfl

/-- The spelling of fields does not count for the plan of a column list. -/
theorem compile_agree (distinct : context.type.LooselyDistinct) {columns second : List Column}
    (each : List.Forall₂ Column.Respelled columns second) :
    Agree TableError.kind Eq (compile context columns) (compile context second) :=
  .foldlM each (fun {_ _ plan start} respelled (same : plan = start) =>
    same ▸ add_agree distinct respelled plan) rfl

end RowPlan

/-! ## Statements -/

def FileEntry.isFile : FileEntry → Bool
  | .file _ => true
  | .directory => false

/-- Files that lie at the same paths, whatever they hold. -/
def Files.Sited (files others : Files) : Prop :=
  ∀ path, (files.at? path).map FileEntry.isFile = (others.at? path).map FileEntry.isFile

theorem Resource.locate_eq {files others : Files} (sited : files.Sited others)
    (directory name : String) (extensions : List String) :
    locate files directory name extensions = locate others directory name extensions := by
  have found (paths : List String) :
      Option.Rel (fun place other => place.1 = other.1 ∧ place.2.isFile = other.2.isFile)
        (paths.findSome? fun path => (files.at? path).map (path, ·))
        (paths.findSome? fun path => (others.at? path).map (path, ·)) := by
    induction paths with
    | nil => exact .none
    | cons path rest ih =>
        have here := sited path
        rw [List.findSome?_cons, List.findSome?_cons]
        cases own : files.at? path with
        | none =>
            rw [own, Option.map_none, eq_comm, Option.map_eq_none_iff] at here
            rw [here]
            exact ih
        | some entry =>
            rw [own, Option.map_some, eq_comm, Option.map_eq_some_iff] at here
            rcases here with ⟨other, there, same⟩
            rw [there]
            exact .some ⟨rfl, same.symm⟩
  have found := found (candidates directory name extensions)
  rw [locate, locate]
  generalize (candidates directory name extensions).findSome?
    (fun path => (files.at? path).map (path, ·)) = first at found ⊢
  generalize (candidates directory name extensions).findSome?
    (fun path => (others.at? path).map (path, ·)) = second at found ⊢
  cases found with
  | none => rfl
  | @some place other same =>
      obtain ⟨path, entry⟩ := place
      obtain ⟨_, second⟩ := other
      obtain ⟨rfl, kind⟩ := same
      cases entry <;> cases second <;> first | rfl | cases kind

namespace Connection

variable {connection : Connection} {files others : Files} {now : Instant} {table : String}
  {select other : Sql.Select} {args : List Value} {type : RecordType}

theorem bindFilter_agree (distinct : type.LooselyDistinct) {filter second : Option Expr}
    (respelled : Option.Rel Expr.Respelled filter second) :
    Agree QueryError.kind Eq (bindFilter type table filter) (bindFilter type table second) := by
  cases respelled with
  | none => exact .refl _
  | some respelled =>
      refine (Condition.ofExpr_agree ⟨rfl, distinct⟩ respelled .empty).bind ?_
      rintro ⟨condition, binding⟩ _ rfl
      exact .ok rfl

theorem locateFor_eq (sited : files.Sited others) (condition : Option Condition) :
    connection.locateFor files table condition = connection.locateFor others table condition := by
  rw [locateFor, locateFor, Resource.locate_eq sited]

/-- Runs that differ in the spelling of fields, and in what the files hold, start with the same
cursor, or are refused for the same kind of reason. -/
theorem runOver_agree (distinct : type.LooselyDistinct) (respelled : select.Respelled other)
    (sited : files.Sited others) :
    Agree TableError.kind Eq (connection.runOver files now table select args type)
      (connection.runOver others now table other args type) := by
  rw [runOver, runOver]
  refine (RowPlan.compile_agree distinct respelled.columns).bind ?_
  rintro plan _ rfl
  refine (TableResult.ofQuery_agree (bindFilter_agree distinct respelled.filter)).bind ?_
  rintro ⟨filter, binding⟩ _ rfl
  simp only [locateFor_eq sited, respelled.limit]
  exact .refl _

end Connection

/-! ## Rows -/

/-- Rows that differ in nothing but keys to which the schemas of their columns give no name. -/
inductive RowsAlike : List OutputColumn → List Value → List Value → Prop where
  | nil : RowsAlike [] [] []
  | cons {column : OutputColumn} {columns : List OutputColumn} {value other : Value}
      {row second : List Value} (here : column.schema.Alike value other)
      (behind : RowsAlike columns row second) :
      RowsAlike (column :: columns) (value :: row) (other :: second)

/-- A row with objects only where the schemas of its columns declare records. -/
def RowPlaced (columns : List OutputColumn) (row : List Value) : Prop :=
  List.Forall₂ (fun column value => column.schema.Placed value) columns row

/-- Rows that are alike are the same where no object stands out of place. -/
theorem RowsAlike.eq_of_placed {columns : List OutputColumn} {row second : List Value}
    (alike : RowsAlike columns row second) (placed : RowPlaced columns row) : row = second := by
  induction alike with
  | nil => rfl
  | cons here _ ih =>
      rcases List.forall₂_cons.1 placed with ⟨own, later⟩
      rw [own.eq_of_alike here, ih later]

/-- Rows of two runs that differ in spelling: they are alike, and the same unless an object stands
out of place. -/
structure RowsMatch (columns : List OutputColumn) (row second : List Value) : Prop where
  alike : RowsAlike columns row second
  same : RowPlaced columns row → row = second

/-- A column shows a field of the type, or one scalar on all rows. -/
def OutputColumn.Shows (type : RecordType) (column : OutputColumn) : Prop :=
  match column.source with
  | .field field => (field.name, column.schema) ∈ type.fields
  | .constant _ => ∃ kind, column.schema = .scalar kind

namespace RowPlan

variable {context : Context} {plan last : RowPlan} {type : RecordType}

theorem shows_of_ofExpression {expr : Expr} {label : Option String} {made : OutputColumn}
    (found : ofExpression expr label = .ok made) : made.Shows type := by
  rcases Outcome.bind_eq_ok.1 found with ⟨name, -, found⟩
  split at found
  · cases found
  · split at found
    · cases found
    · cases found
      exact ⟨_, rfl⟩

theorem shows_of_ofCall {name : String} {args : List Expr} {label : Option String}
    {consumed taken : Nat} {made : OutputColumn}
    (found : ofCall context name args label consumed = .ok (made, taken)) : made.Shows type := by
  rcases Outcome.bind_eq_ok.1 found with ⟨function, -, found⟩
  cases function with
  | now =>
      cases found
      exact ⟨_, rfl⟩
  | cast =>
      rcases Outcome.bind_eq_ok.1 found with ⟨⟨kind, source⟩, -, found⟩
      rcases Outcome.bind_eq_ok.1 found with ⟨⟨value, taken⟩, -, found⟩
      rcases Outcome.bind_eq_ok.1 found with ⟨result, -, found⟩
      cases found
      exact ⟨_, rfl⟩

theorem shows_of_add {column : Column} (found : add context plan column = .ok last)
    (before : ∀ made ∈ plan.columns, made.Shows context.type) :
    ∀ made ∈ last.columns, made.Shows context.type := by
  have behind {columns : List OutputColumn} {consumed : Nat}
      (each : ∀ made ∈ columns, made.Shows context.type)
      (same : last = ⟨plan.columns ++ columns, consumed⟩) :
      ∀ made ∈ last.columns, made.Shows context.type := by
    intro made inside
    rw [same] at inside
    rcases List.mem_append.1 inside with old | new
    · exact before made old
    · exact each made new
  cases column with
  | star =>
      refine behind ?_ (Except.ok.inj found).symm
      intro made inside
      rcases List.mem_map.1 inside with ⟨field, listed, rfl⟩
      exact RecordType.mem_of_mem_accessorsFrom listed
  | field name label =>
      rw [add] at found
      split at found
      · rename_i field known
        refine behind ?_ (Except.ok.inj found).symm
        intro made inside
        cases List.mem_singleton.1 inside
        exact RecordType.mem_of_looseField? known
      · cases found
  | expression expr label =>
      rcases Outcome.bind_eq_ok.1 found with ⟨made, here, same⟩
      refine behind ?_ (Except.ok.inj same).symm
      intro given inside
      cases List.mem_singleton.1 inside
      exact shows_of_ofExpression here
  | call name args label =>
      rcases Outcome.bind_eq_ok.1 found with ⟨⟨made, consumed⟩, here, same⟩
      refine behind ?_ (Except.ok.inj same).symm
      intro given inside
      cases List.mem_singleton.1 inside
      exact shows_of_ofCall here

theorem shows_of_compile {columns : List Column} (found : compile context columns = .ok plan) :
    ∀ made ∈ plan.columns, made.Shows context.type := by
  have onto {start : RowPlan} (before : ∀ made ∈ start.columns, made.Shows context.type)
      {columns : List Column} (found : columns.foldlM (add context) start = .ok plan) :
      ∀ made ∈ plan.columns, made.Shows context.type := by
    induction columns generalizing start with
    | nil =>
        cases found
        exact before
    | cons column rest ih =>
        rw [List.foldlM_cons] at found
        rcases Outcome.bind_eq_ok.1 found with ⟨next, here, found⟩
        exact ih (shows_of_add here before) found
  exact onto (fun _ inside => absurd inside List.not_mem_nil) found

variable {given others : Fields}

/-- The fields of a type in two spellings make rows that are alike. -/
theorem exists_rowsAlike (distinct : type.LooselyDistinct)
    (paired : Fields.Paired (Schema.AlikeAt type.fields) given others)
    {columns : List OutputColumn} (shows : ∀ column ∈ columns, column.Shows type) :
    ∃ row second, columns.mapM (·.value (.object given)) = (.ok row : QueryResult (List Value)) ∧
      columns.mapM (·.value (.object others)) = (.ok second : QueryResult (List Value)) ∧
      RowsAlike columns row second := by
  have names : (type.fields.map Prod.fst).Nodup := by
    have loosely : (type.fields.map (looseName ∘ Prod.fst)).Nodup := distinct
    rw [← List.map_map] at loosely
    exact loosely.of_map looseName
  have value (column : OutputColumn) (shown : column.Shows type) :
      ∃ own other, column.value (.object given) = .ok own ∧
        column.value (.object others) = .ok other ∧ column.schema.Alike own other := by
    rw [OutputColumn.Shows] at shown
    rw [OutputColumn.value, OutputColumn.value]
    cases source : column.source with
    | constant value =>
        rw [source] at shown
        rcases shown with ⟨kind, scalar⟩
        refine ⟨value, value, rfl, rfl, ?_⟩
        rw [scalar]
        exact Value.Respelled.same value
    | field field =>
        rw [source] at shown
        rcases field.get_of_paired paired Schema.similar_of_alikeAt with
          ⟨first, second, own, other, each⟩
        dsimp only
        rw [own, other]
        refine ⟨_, _, rfl, rfl, ?_⟩
        cases each with
        | none => exact Schema.alike_null _
        | some alike =>
            rcases Schema.exists_alike_of_alikeAt alike with ⟨schema, declared, alike⟩
            exact Schema.eq_of_mem_of_nodup names declared shown ▸ alike
  induction columns with
  | nil => exact ⟨[], [], rfl, rfl, .nil⟩
  | cons column rest ih =>
      rcases value column (shows column List.mem_cons_self) with ⟨own, other, here, there, alike⟩
      rcases ih fun later inside => shows later (List.mem_cons_of_mem _ inside)
        with ⟨row, second, made, made', behind⟩
      refine ⟨own :: row, other :: second, ?_, ?_, .cons alike behind⟩
      · rw [List.mapM_cons, here, made]
        rfl
      · rw [List.mapM_cons, there, made']
        rfl

end RowPlan

/-! ## Lines -/

/-- Lines that are the same, or hold records that differ in nothing but the spelling of keys. -/
inductive Line.Respelled (format : Format) : Line → Line → Prop where
  | same (line : Line) : Respelled format line line
  | record {bytes others : List UInt8} {value other : Value}
      (own : Line.record? format bytes = .ok (some value))
      (second : Line.record? format others = .ok (some other))
      (respelled : value.Respelled other) : Respelled format (.text bytes) (.text others)

namespace Scan

variable {scan : Scan} {resource : Resource} {line second : Line}

theorem checkFields_agree {given others : Fields}
    (paired : Fields.Paired (fun _ => Value.Similar) given others) (fields : List Accessor) :
    Agree QueryError.kind (fun fault other => fault.isSome = other.isSome)
      (check.checkFields (.object given) fields) (check.checkFields (.object others) fields) := by
  induction fields with
  | nil => exact .ok rfl
  | cons field rest ih =>
      rw [check.checkFields.eq_def, check.checkFields.eq_def]
      dsimp only
      cases field.schema.kind? with
      | none => exact ih
      | some kind =>
          rcases field.get_of_paired paired id with ⟨first, second, own, other, each⟩
          simp only [own, other, Outcome.ok_bind]
          cases each with
          | none => exact ih
          | some similar =>
              dsimp only
              rw [similar.accepts_eq]
              split
              · exact ih
              · exact .ok rfl

theorem check_agree {given others : Fields}
    (paired : Fields.Paired (fun _ => Value.Similar) given others) (type : RecordType) :
    Agree TableError.kind (fun fault other => fault.isSome = other.isSome)
      (check type (.object given)) (check type (.object others)) :=
  TableResult.ofQuery_agree (checkFields_agree paired type.accessors)

end Scan

/-- The records on two lines, where there is one, have the same fields in two spellings. -/
theorem Table.read_agree {table : Table} {line second : Line}
    (respelled : Line.Respelled table.resource.format line second) (number : Nat) :
    Agree TableError.kind
      (Option.Rel fun record other => ∃ given others, record = .object given ∧
        other = .object others ∧ Fields.Paired (Schema.AlikeAt table.type.fields) given others)
      (table.read number line) (table.read number second) := by
  have record {bytes others : List UInt8} {value other : Value}
      (own : Line.record? table.resource.format bytes = .ok (some value))
      (there : Line.record? table.resource.format others = .ok (some other))
      (respelled : value.Respelled other) :
      Agree TableError.kind
        (Option.Rel fun record other => ∃ given others, record = .object given ∧
          other = .object others ∧ Fields.Paired (Schema.AlikeAt table.type.fields) given others)
        (table.read number (.text bytes)) (table.read number (.text others)) := by
    rcases table.type.exists_paired_of_respelled (isObject_of_record? own) respelled
      with ⟨given, second, made, made', paired⟩
    have checked := Scan.check_agree (paired.mono Schema.similar_of_alikeAt) table.type
    simp only [read, own, there, made, made']
    generalize Scan.check table.type (.object given) = first at checked ⊢
    generalize Scan.check table.type (.object second) = second at checked ⊢
    cases checked with
    | error same => exact .error same
    | @ok fault other same =>
        cases fault with
        | none =>
            cases other with
            | none => exact .ok (.some ⟨given, _, rfl, rfl, paired⟩)
            | some fault => cases same
        | some fault =>
            cases other with
            | none => cases same
            | some other => exact .error rfl
  cases respelled with
  | record own there respelled => exact record own there respelled
  | same =>
      cases line with
      | tooLong | unreadable => exact .error rfl
      | text bytes =>
          cases found : Line.record? table.resource.format bytes with
          | error fault =>
              simp only [read, found]
              exact .error rfl
          | ok value =>
              cases value with
              | none =>
                  simp only [read, found]
                  exact .ok .none
              | some value => exact record found found (.same value)

namespace Scan

variable {scan : Scan} {resource : Resource} {line second : Line}

theorem lineRow_agree (distinct : scan.type.LooselyDistinct)
    (shows : ∀ column ∈ scan.plan.columns, column.Shows scan.type)
    (respelled : Line.Respelled resource.format line second) (number : Nat) :
    Agree TableError.kind (Option.Rel (RowsAlike scan.plan.columns))
      (scan.lineRow resource number line) (scan.lineRow resource number second) := by
  have reads : Agree TableError.kind _ ((scan.table resource).read number line)
      ((scan.table resource).read number second) := Table.read_agree respelled number
  refine reads.bind ?_
  rintro record other each
  cases each with
  | none => exact .ok .none
  | some each =>
      rcases each with ⟨given, others, rfl, rfl, paired⟩
      have tested : Agree TableError.kind Eq (scan.stage.test (.object given))
          (scan.stage.test (.object others)) := by
        refine TableResult.ofQuery_agree ?_
        cases scan.stage.filter with
        | none => exact .ok rfl
        | some filter =>
            exact Condition.evaluate_agree (paired.mono Schema.similar_of_alikeAt) _ filter
      refine tested.bind ?_
      rintro passed _ rfl
      cases passed with
      | false => exact .ok .none
      | true =>
          rcases RowPlan.exists_rowsAlike distinct paired shows
            with ⟨row, second, made, made', alike⟩
          rw [RowPlan.row, RowPlan.row, made, made']
          exact .ok (.some alike)

/-- Lines side by side contribute rows side by side. -/
theorem contributions_agree (distinct : scan.type.LooselyDistinct)
    (shows : ∀ column ∈ scan.plan.columns, column.Shows scan.type) {lines others : List Line}
    (each : List.Forall₂ (Line.Respelled resource.format) lines others) (number : Nat) :
    List.Forall₂ (Agree TableError.kind (RowsAlike scan.plan.columns))
      (scan.contributions resource number lines) (scan.contributions resource number others) := by
  induction each generalizing number with
  | nil => exact .nil
  | cons here _ ih =>
      rw [contributions_cons, contributions_cons]
      refine List.rel_append ?_ (ih (number + 1))
      have agree := lineRow_agree distinct shows here number
      generalize scan.lineRow resource number _ = first at agree ⊢
      generalize scan.lineRow resource number _ = second at agree ⊢
      cases agree with
      | error same => exact .cons (.error same) .nil
      | ok row =>
          cases row with
          | none => exact .nil
          | some alike => exact .cons (.ok alike) .nil

/-- What a run shows of lines in two spellings. -/
theorem shows_agree {files others : Files} (distinct : scan.type.LooselyDistinct)
    (shows : ∀ column ∈ scan.plan.columns, column.Shows scan.type)
    (lines : ∀ resource, scan.resource = some resource →
      List.Forall₂ (Line.Respelled resource.format)
        ((resource.content files).lines scan.maxLineBytes)
        ((resource.content others).lines scan.maxLineBytes)) :
    List.Forall₂ (Agree TableError.kind (RowsAlike scan.plan.columns))
      (scan.shows files) (scan.shows others) := by
  rw [Scan.shows, Scan.shows]
  cases known : scan.resource with
  | none => exact .nil
  | some resource =>
      have upTo {first second : List (TableResult (List Value))}
          (each : List.Forall₂ (Agree TableError.kind (RowsAlike scan.plan.columns)) first second) :
          List.Forall₂ (Agree TableError.kind (RowsAlike scan.plan.columns))
            (upToError first) (upToError second) := by
        induction each with
        | nil => exact .nil
        | cons here _ ih =>
            cases here with
            | ok alike => exact .cons (.ok alike) ih
            | error same => exact .cons (.error same) .nil
      have each := upTo (contributions_agree distinct shows (lines resource known) 1)
      cases scan.limit with
      | none => exact each
      | some limit => exact List.forall₂_take limit each

end Scan

/-- A cursor that has not been opened gives the rows that its run shows. -/
theorem Cursor.rows_start_eq_shows (scan : Scan) (files : Files) :
    (start scan).rows files = scan.shows files := by
  cases known : scan.resource with
  | none => rw [rows_start_none known, Scan.shows, known]
  | some resource =>
      have limit : scan.limit.map (· - 0) = scan.limit := by cases scan.limit <;> rfl
      rw [rows_start known, Scan.shows, known]
      change takeRows files ((resource.content files).lines scan.maxLineBytes).length
        ⟨scan, 0, .reading 1 ((resource.content files).lines scan.maxLineBytes)⟩ = _
      rw [takeRows_reading known 0 1 _ (Nat.le_refl _), limit, Scan.found_eq_upToError]

namespace Connection

variable {connection : Connection} {files others : Files} {now : Instant} {table : String}
  {select other : Sql.Select} {args : List Value} {type : RecordType} {sql text : String}

/-- A SELECT from a table of a known type, no two of whose fields have loosely equal names, may
spell the fields in any way, and so may the lines of the table. Both runs are refused for one kind
of reason, or both go through the same columns and show rows side by side: errors of one kind, and
values that differ in nothing but the keys of objects that stand where the type declares no
record. Rows without such objects are the same. -/
theorem query_respelled (known : connection.types.lookup? table = some type)
    (distinct : type.LooselyDistinct) (source : select.table? = some table)
    (spelling : select.Respelled other) (sited : files.Sited others)
    (lines : ∀ resource, Resource.locate files connection.location.path table
        connection.options.extensions = .ok resource →
      List.Forall₂ (Line.Respelled resource.format)
        ((resource.content files).lines connection.options.maxLineBytes)
        ((resource.content others).lines connection.options.maxLineBytes)) :
    Agree TableError.kind
      (fun cursor second => second.scan.plan = cursor.scan.plan ∧
        List.Forall₂ (Agree TableError.kind (RowsMatch cursor.scan.plan.columns))
          (cursor.rows files) (second.rows others))
      (connection.query files now ⟨sql, .select select⟩ args)
      (connection.query others now ⟨text, .select other⟩ args) := by
  rw [query_eq_runOver source, query_eq_runOver (spelling.table.symm.trans source), typeOf, typeOf,
    known]
  refine (runOver_agree distinct spelling sited).imp ?_
  rintro cursor _ made - rfl
  rcases runOver_eq_ok made
    with ⟨plan, filter, binding, arguments, resource, compiled, -, -, located, rfl⟩
  refine ⟨rfl, ?_⟩
  rw [Cursor.rows_start_eq_shows, Cursor.rows_start_eq_shows]
  have rows := RowPlan.shows_of_compile compiled
  refine (Scan.shows_agree distinct rows ?_).imp fun _ _ each =>
    each.imp fun _ _ alike => ⟨alike, alike.eq_of_placed⟩
  rintro found rfl
  rcases locateFor_eq_ok_iff.1 located with ⟨-, none⟩ | ⟨-, place, same, here⟩
  · cases none
  · cases same
    exact lines found here

/-! ### One line in two spellings -/

/-- Guests with a name and tags. -/
def guest : RecordType := ⟨"Guest", [("Name", .scalar .string), ("Tags", .array (.scalar .string))]⟩

def guests : Connection :=
  ⟨⟨"data", "data"⟩, ⟨1024, Resource.extensions⟩, .register .empty "Guest" guest⟩

/-- A table of guests that holds one text. -/
def guestFile (text : String) : Files where
  workingDirectory := "/"
  at? path := if path == "data/Guest.json" then some (.file text.toUTF8.toList) else none

/-- A column list and a condition over guests. -/
def guestSelect (columns : List Column) (filter : Option Expr) : Sql.Select :=
  ⟨columns, .table "Guest", 0, filter, none⟩

theorem sited_guestFile (text other : String) : (guestFile text).Sited (guestFile other) := by
  intro path
  simp only [guestFile]
  split <;> rfl

theorem distinct_guest : guest.LooselyDistinct := by
  rw [RecordType.LooselyDistinct]
  decide +kernel

/-- A text is one line that is not too long. -/
def OneLine (text : String) : Prop :=
  Content.lineEnd ∉ text.toUTF8.toList ∧ text.toUTF8.toList.length ≤ 1024 ∧
    text.toUTF8.toList ≠ []

instance (text : String) : Decidable (OneLine text) := inferInstanceAs (Decidable (_ ∧ _ ∧ _))

theorem lines_guestFile {text other : String} {value second : Value} (line : OneLine text)
    (line' : OneLine other) (own : Line.record? .json text.toUTF8.toList = .ok (some value))
    (there : Line.record? .json other.toUTF8.toList = .ok (some second))
    (respelled : value.Respelled second) (resource : Resource)
    (located : Resource.locate (guestFile text) guests.location.path "Guest"
      guests.options.extensions = .ok resource) :
    List.Forall₂ (Line.Respelled resource.format)
      ((resource.content (guestFile text)).lines guests.options.maxLineBytes)
      ((resource.content (guestFile other)).lines guests.options.maxLineBytes) := by
  have place : Resource.locate (guestFile "") guests.location.path "Guest"
      guests.options.extensions = .ok ⟨"Guest", some "data/Guest.json", .json, false⟩ :=
    Outcome.toOption_eq_some.1 (by decide +kernel)
  rw [Resource.locate_eq (sited_guestFile text ""), place] at located
  cases located
  have lines {text : String} (line : OneLine text) :
      ((Resource.content ⟨"Guest", some "data/Guest.json", .json, false⟩ (guestFile text)).lines
        guests.options.maxLineBytes) = [.text text.toUTF8.toList] := by
    have content : Resource.content ⟨"Guest", some "data/Guest.json", .json, false⟩
        (guestFile text) = ⟨text.toUTF8.toList, none⟩ := by
      simp [Resource.content, guestFile]
    rw [content]
    exact Content.lines_of_unended line.1 line.2.1 line.2.2
  rw [lines line, lines line']
  exact .cons (.record own there respelled) .nil

/-- `SELECT Name FROM Guest WHERE Name = 'Ann'`. -/
def named : Sql.Select :=
  guestSelect [.field "Name" none] (some (.binary (.compare .eq) (.column "Name") (.string "Ann")))

/-- `SELECT na_me FROM Guest WHERE NAME = 'Ann'`. -/
def renamed : Sql.Select :=
  guestSelect [.field "na_me" none] (some (.binary (.compare .eq) (.column "NAME") (.string "Ann")))

def ann : String := "\x7b\"name\":\"Ann\"\x7d"

def ann' : String := "\x7b\"NA_ME\":\"Ann\"\x7d"

/-- The name of a guest is shown whatever its key looks like. -/
theorem query_respelled_named :
    Agree TableError.kind
      (fun cursor second => second.scan.plan = cursor.scan.plan ∧
        List.Forall₂ (Agree TableError.kind (RowsMatch cursor.scan.plan.columns))
          (cursor.rows (guestFile ann)) (second.rows (guestFile ann')))
      (guests.query (guestFile ann) ⟨0, 0⟩ ⟨"", .select named⟩ [])
      (guests.query (guestFile ann') ⟨0, 0⟩ ⟨"", .select renamed⟩ []) := by
  have name : looseName "Name" = looseName "NAME" := by decide +kernel
  have name' : looseName (Sql.unqualified "Name") = looseName (Sql.unqualified "na_me") := by
    decide +kernel
  have own : Line.record? .json ann.toUTF8.toList =
      .ok (some (.object [("name", .string "Ann")])) := by
    with_unfolding_all rfl
  have there : Line.record? .json ann'.toUTF8.toList =
      .ok (some (.object [("NA_ME", .string "Ann")])) := by
    with_unfolding_all rfl
  have respelled : (Value.object [("name", .string "Ann")]).Respelled
      (.object [("NA_ME", .string "Ann")]) :=
    .object (by decide +kernel) (.cons (.same _) .nil)
  refine query_respelled rfl distinct_guest rfl ?_ (sited_guestFile _ _)
    (lines_guestFile (by decide +kernel) (by decide +kernel) own there respelled)
  exact {
    columns := .cons (.field none name') .nil
    table := rfl
    filter := .some (.binary _ (.column name) (.same _))
    limit := rfl }

/-- `SELECT Tags FROM Guest`. -/
def tagged : Sql.Select := guestSelect [.field "Tags" none] none

def stray : String := "\x7b\"tags\":[\x7b\"Ab\":\"x\"\x7d]\x7d"

def stray' : String := "\x7b\"tags\":[\x7b\"ab\":\"x\"\x7d]\x7d"

/-- How rows are written; none in the place of an error. -/
def texts (rows : List (TableResult (List Value))) : List (Option (List String)) :=
  rows.map fun row => row.toOption.map (·.map Value.text)

/-- The tags of a guest are texts, so the key of an object among them is no key of a record, and
is shown as it is spelled. -/
theorem stray_key_kept :
    (∃ value other, Line.record? .json stray.toUTF8.toList = .ok (some value) ∧
      Line.record? .json stray'.toUTF8.toList = .ok (some other) ∧ value.Respelled other) ∧
    ∃ cursor second,
      guests.query (guestFile stray) ⟨0, 0⟩ ⟨"", .select tagged⟩ [] = .ok cursor ∧
      guests.query (guestFile stray') ⟨0, 0⟩ ⟨"", .select tagged⟩ [] = .ok second ∧
      cursor.rows (guestFile stray) ≠ second.rows (guestFile stray') := by
  have own : Line.record? .json stray.toUTF8.toList =
      .ok (some (.object [("tags", .array [.object [("Ab", .string "x")]])])) := by
    with_unfolding_all rfl
  have there : Line.record? .json stray'.toUTF8.toList =
      .ok (some (.object [("tags", .array [.object [("ab", .string "x")]])])) := by
    with_unfolding_all rfl
  have key : (Value.object [("Ab", .string "x")]).Respelled (.object [("ab", .string "x")]) :=
    .object (by decide +kernel) (.cons (.same _) .nil)
  refine ⟨⟨_, _, own, there, .object rfl (.cons (.array (.cons key .nil)) .nil)⟩, ?_⟩
  have shown : (do
      let cursor ← guests.query (guestFile stray) ⟨0, 0⟩ ⟨"", .select tagged⟩ []
      let second ← guests.query (guestFile stray') ⟨0, 0⟩ ⟨"", .select tagged⟩ []
      return (texts (cursor.rows (guestFile stray)),
        texts (second.rows (guestFile stray')))).toOption =
      some ([some ["[\x7b\"Ab\":\"x\"\x7d]"]], [some ["[\x7b\"ab\":\"x\"\x7d]"]]) := by
    decide +kernel
  rcases Outcome.bind_eq_ok.1 (Outcome.toOption_eq_some.1 shown) with ⟨cursor, first, shown⟩
  rcases Outcome.bind_eq_ok.1 shown with ⟨second, other, shown⟩
  rcases Prod.mk.inj (Except.ok.inj shown) with ⟨left, right⟩
  refine ⟨cursor, second, first, other, fun same => ?_⟩
  rw [same, right] at left
  exact absurd left (by decide)

end Connection

end RecordQuery
