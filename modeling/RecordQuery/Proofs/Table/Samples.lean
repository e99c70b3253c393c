import RecordQuery.Proofs.Schema.Samples
import RecordQuery.Proofs.Table.Constants
import RecordQuery.Proofs.Table.Registrations
import RecordQuery.Proofs.Table.Respelling

/-!
# Tables of samples

A connection on which a type was registered by a sample reads the lines that hold such samples as
they stand: `SELECT *` shows the values of each, in the order of its keys.
-/

namespace RecordQuery

/-! ## Rows of samples -/

/-- The line holds these fields, or is blank. -/
def Line.Reads (format : Format) (line : Line) (found : Option Fields) : Prop :=
  ∃ bytes, line = .text bytes ∧ record? format bytes = .ok (found.map .object)

section Rows

variable {type : RecordType} {given : Fields} {now : Instant} {args : List Value}

/-- The plan of `SELECT *`. -/
def RowPlan.star (type : RecordType) : RowPlan :=
  ⟨type.accessors.map (.ofField · none), 0⟩

theorem RowPlan.compile_star : compile ⟨now, type, args⟩ [.star] = .ok (star type) := rfl

/-- A column of a field shows its value. -/
theorem OutputColumn.value_ofField {field : Accessor} {value : Value} (label : Option String)
    (found : given.get? field.name = some value) :
    (ofField field label).value (.object given) = .ok value := by
  have shown : ((some value).filter (!·.isNull)).getD .null = value := by
    cases value <;> rfl
  rw [OutputColumn.value, ofField]
  simp only [Accessor.get, found, Outcome.ok_bind, shown]
  rfl

/-- `SELECT *` shows all values of an object that has the fields of the type, in order. -/
theorem RowPlan.row_star (distinct : (given.map Prod.fst).Nodup)
    (names : given.map Prod.fst = type.fields.map Prod.fst) :
    (star type).row (.object given) = .ok (given.map Prod.snd) := by
  -- The induction is on the rest of the fields, while each is looked up in the whole object.
  have each (fields : List (String × Schema)) (part : Fields) (inside : part ⊆ given)
      (same : part.map Prod.fst = fields.map Prod.fst) (index : Nat) :
      ((RecordType.accessorsFrom index fields).map (OutputColumn.ofField · none)).mapM
        (·.value (.object given)) = .ok (part.map Prod.snd) := by
    induction fields generalizing part index with
    | nil =>
        cases List.map_eq_nil_iff.1 same
        rfl
    | cons field rest ih =>
        obtain ⟨own, others, rfl, name, later⟩ := List.map_eq_cons_iff.1 same
        have found : given.get? own.1 = some own.2 :=
          Fields.get?_of_mem distinct (inside List.mem_cons_self)
        have shown : (OutputColumn.ofField ⟨field.1, field.2, some index⟩ none).value
            (.object given) = .ok own.2 := OutputColumn.value_ofField none (name ▸ found)
        have behind := ih others (fun _ member => inside (List.mem_cons_of_mem _ member)) later
          (index + 1)
        rw [RecordType.accessorsFrom, List.map_cons, List.mapM_cons, shown, Outcome.ok_bind, behind]
        rfl
  exact each type.fields given (fun _ member => member) names 0

/-- A sample conforms as it stands. -/
theorem RecordType.SampledBy.conform (sampled : type.SampledBy given) :
    type.conform (.object given) = .object given :=
  Schema.conform_of_normal sampled.samples.distinct sampled.samples.normal

theorem Table.read_of_sample (table : Table) (sampled : table.type.SampledBy given)
    {bytes : List UInt8}
    (held : Line.record? table.resource.format bytes = .ok (some (.object given)))
    (number : Nat) : table.read number (.text bytes) = .ok (some (.object given)) :=
  Table.read_eq_some.2 ⟨bytes, .object given, rfl, held,
    Scan.check_of_conforms sampled.samples.conforms, sampled.conform.symm⟩

theorem RecordType.SampledBy.nodup (sampled : type.SampledBy given) :
    (given.map Prod.fst).Nodup := by
  cases sampled.distinct with
  | object keys _ => exact Schema.nodup_of_looseNames keys

/-- Lines that hold samples contribute the values of each. -/
theorem Scan.contributions_of_samples (scan : Scan) {resource : Resource}
    (star : scan.plan = .star scan.type) (every : scan.filter = none) {lines : List Line}
    {found : List (Option Fields)} (held : List.Forall₂ (Line.Reads resource.format) lines found)
    (each : ∀ given, some given ∈ found → scan.type.SampledBy given) (number : Nat) :
    scan.contributions resource number lines =
      found.reduceOption.map fun given => .ok (given.map Prod.snd) := by
  induction held generalizing number with
  | nil => rfl
  | @cons line held lines found read _ ih =>
      have behind := ih (fun given later => each given (List.mem_cons_of_mem _ later)) (number + 1)
      obtain ⟨bytes, rfl, read⟩ := read
      rw [contributions_cons, behind]
      cases held with
      | none =>
          have blank : (scan.table resource).read number (.text bytes) = .ok none := by
            rw [Table.read, Scan.table, read]
            rfl
          rw [lineRow, blank]
          rfl
      | some given =>
          have sampled := each given List.mem_cons_self
          have record := Table.read_of_sample (scan.table resource) sampled read number
          have passes : scan.stage.test (.object given) = .ok true := by
            rw [Stage.test, stage, every]
            rfl
          have row := RowPlan.row_star sampled.nodup sampled.names
          rw [← star] at row
          rw [lineRow, record, Outcome.ok_bind]
          simp only [passes, Outcome.ok_bind, row]
          rfl

theorem upToError_map_ok {α : Type} (values : List α) :
    upToError (values.map .ok) = (values.map .ok : List (TableResult α)) := by
  induction values with
  | nil => rfl
  | cons value rest ih => exact congrArg (.ok value :: ·) ih

end Rows

/-- `SELECT * FROM` a table. -/
def Sql.Select.all (table : String) (offset : Nat) : Sql.Select :=
  ⟨[.star], .table table, offset, none, none⟩

/-- A run of `SELECT *` over a file. -/
def Scan.all (type : RecordType) (resource : Resource) (maxLineBytes : Nat) : Scan :=
  ⟨type, .star type, none, .empty, some resource, maxLineBytes, none⟩

/-- Over a table whose lines hold samples of its type, `SELECT *` shows the values of each. -/
theorem Connection.rows_of_samples {connection : Connection} {files : Files} {now : Instant}
    {table sql : String} {type : RecordType} {resource : Resource} {later : Files}
    {found : List (Option Fields)} (offset : Nat)
    (known : connection.types.lookup? table = some type)
    (located : Resource.locate files connection.location.path table
      connection.options.extensions = .ok resource)
    (held : List.Forall₂ (Line.Reads resource.format)
      ((resource.content later).lines connection.options.maxLineBytes) found)
    (each : ∀ given, some given ∈ found → type.SampledBy given) :
    ∃ cursor, connection.query files now ⟨sql, .select (.all table offset)⟩ [] = .ok cursor ∧
      cursor.rows later = found.reduceOption.map fun given => .ok (given.map Prod.snd) := by
  have source : (Sql.Select.all table offset).table? = some table := rfl
  have file : connection.locateFor files table none = .ok (some resource) :=
    locateFor_eq_ok_iff.2 (.inr ⟨nofun, resource, rfl, located⟩)
  have run : connection.runOver files now table (.all table offset) [] type =
      .ok (.start (.all type resource connection.options.maxLineBytes)) := by
    rw [runOver, Sql.Select.all, RowPlan.compile_star, Outcome.ok_bind]
    change connection.locateFor files table none >>= _ = _
    rw [file]
    rfl
  refine ⟨.start (.all type resource connection.options.maxLineBytes), ?_, ?_⟩
  · rw [query_eq_runOver source, typeOf, known]
    exact run
  · have shown := Scan.contributions_of_samples
      (.all type resource connection.options.maxLineBytes) rfl rfl held each 1
    have whole := upToError_map_ok (found.reduceOption.map (·.map Prod.snd))
    rw [List.map_map] at whole
    rw [Cursor.rows_start_eq_shows, Scan.shows]
    change upToError (Scan.contributions _ resource 1
      ((resource.content later).lines connection.options.maxLineBytes)) = _
    rw [shown]
    exact whole

/-! ## Registering a sample -/

namespace Session

open Connection (guestFile)

/-- A sample is a record of the type that is inferred from it: conforming leaves it as it is, and
the check accepts it. So where a connection registers the type of a sample, `SELECT *` from a table
of such samples shows the values of each, in the order of its keys. -/
theorem select_all_of_sample {type : RecordType} {given : Fields}
    (sampled : type.SampledBy given) :
    type.conform (.object given) = .object given ∧
      Scan.check type (.object given) = .ok none ∧
      ∀ (session : Session) (number : Nat) (own : Connection) (sql text : String)
        (registering selecting : Prepared) (everywhere : Bool) (offset : Nat) (more : List Value),
        session.connections[number]? = some own →
        Prepared.ofText sql = .ok registering →
        registering.statement = .register ⟨type.name, everywhere, "?"⟩ →
        Prepared.ofText text = .ok selecting →
        selecting.statement = .select (.all type.name offset) →
        ∃ registered connection,
          (session.prepare number sql).2.execute number registering (.object given :: more) =
            .ok registered ∧
          (registered.prepare number text).2.connections[number]? = some connection ∧
          ∀ (files later : Files) (now : Instant) (resource : Resource)
            (found : List (Option Fields)),
            Resource.locate files own.location.path type.name own.options.extensions =
              .ok resource →
            List.Forall₂ (Line.Reads resource.format)
              ((resource.content later).lines own.options.maxLineBytes) found →
            (∀ other, some other ∈ found → type.SampledBy other) →
            ∃ cursor, connection.query files now selecting [] = .ok cursor ∧
              cursor.rows later = found.reduceOption.map fun other => .ok (other.map Prod.snd) := by
  refine ⟨sampled.conform, Scan.check_of_conforms sampled.samples.conforms, ?_⟩
  rintro session number own sql text ⟨_, _⟩ ⟨_, _⟩ everywhere offset more there - rfl - rfl
  have typed : (Sql.Registration.mk type.name everywhere "?").type (.object given :: more) =
      .ok type := by
    have mark : (Text.trim "?" == "?") = true := by decide +kernel
    rw [Sql.Registration.type]
    dsimp only
    rw [if_pos mark]
    exact sampled.inferred
  obtain ⟨registered, executed, now_, -⟩ := exists_execute (connections_prepare there sql) _ typed
  refine ⟨registered, _, executed, connections_prepare now_ text, ?_⟩
  intro files later now resource found located held each
  exact Connection.rows_of_samples offset (TypeRegistry.lookup?_merge_register _) located held each

/-! ### A guest -/

def guestFields : Fields :=
  [("Name", .string "Ann"), ("Since", .string "2020-01-02T03:04:05Z"),
    ("Tags", .array [.string "a", .string "b"]), ("Home", .object [("Door", .ofInt64 7)])]

/-- The type of a guest. -/
def sampledGuest : RecordType :=
  ⟨"Guest", [("Name", .scalar .string), ("Since", .scalar .time),
    ("Tags", .array (.scalar .string)), ("Home", .record "Home" [("Door", .scalar .int)])]⟩

/-- A guest on a line. -/
def guestLine : String :=
  "\x7b\"Name\":\"Ann\",\"Since\":\"2020-01-02T03:04:05Z\",\"Tags\":[\"a\",\"b\"]," ++
    "\"Home\":\x7b\"Door\":7\x7d\x7d"

theorem sampledBy_guestFields : sampledGuest.SampledBy guestFields where
  distinct := by
    have keys : Fields.LooselyDistinct guestFields ∧
        Fields.LooselyDistinct [("Door", .ofInt64 7)] := by
      simp only [Fields.LooselyDistinct]
      decide +kernel
    refine .object keys.1 ?_
    simp only [guestFields, List.forall_mem_cons]
    refine ⟨.string _, .string _, .array ?_, .object keys.2 ?_, List.forall_mem_nil _⟩
    · exact List.forall_mem_cons.2 ⟨.string _, List.forall_mem_singleton.2 (.string _)⟩
    · exact List.forall_mem_singleton.2 (.number _)
  uniform := by
    refine .object _ ?_
    simp only [guestFields, List.forall_mem_cons]
    refine ⟨.string _ _, .string _ _, ?_, .object _ ?_, List.forall_mem_nil _⟩
    · refine @Value.Uniform.array _ _ (.scalar .string) ?_ ?_
      · exact List.forall_mem_cons.2 ⟨.string _ _, List.forall_mem_singleton.2 (.string _ _)⟩
      · exact List.forall_mem_cons.2 ⟨by with_unfolding_all rfl,
          List.forall_mem_singleton.2 (by with_unfolding_all rfl)⟩
    · exact List.forall_mem_singleton.2 (.number _ _)
  inferred := by with_unfolding_all rfl

/-- Behind `REGISTER TYPE Guest AS ?` with a guest, `SELECT * FROM Guest` shows the guest. -/
theorem select_all_of_sample_guest :
    ∃ registering selecting registered connection cursor,
      Prepared.ofText "REGISTER TYPE Guest AS ?" = .ok registering ∧
      Prepared.ofText "SELECT * FROM Guest" = .ok selecting ∧
      (two.prepare 0 "REGISTER TYPE Guest AS ?").2.execute 0 registering [.object guestFields] =
        .ok registered ∧
      (registered.prepare 0 "SELECT * FROM Guest").2.connections[0]? = some connection ∧
      connection.query (guestFile guestLine) ⟨0, 0⟩ selecting [] = .ok cursor ∧
      cursor.rows (guestFile guestLine) = [.ok (guestFields.map Prod.snd)] := by
  have registering : Prepared.ofText "REGISTER TYPE Guest AS ?" =
      .ok ⟨"REGISTER TYPE Guest AS ?", .register ⟨"Guest", false, "?"⟩⟩ := by
    with_unfolding_all rfl
  have selecting : Prepared.ofText "SELECT * FROM Guest" =
      .ok ⟨"SELECT * FROM Guest", .select (.all "Guest" 14)⟩ := by
    with_unfolding_all rfl
  have place : Resource.locate (guestFile guestLine) "data" "Guest" Resource.extensions =
      .ok ⟨"Guest", some "data/Guest.json", .json, false⟩ :=
    Outcome.toOption_eq_some.1 (by decide +kernel)
  have line : Line.record? .json guestLine.toUTF8.toList = .ok (some (.object guestFields)) := by
    with_unfolding_all rfl
  have content : Resource.content ⟨"Guest", some "data/Guest.json", .json, false⟩
      (guestFile guestLine) = ⟨guestLine.toUTF8.toList, none⟩ := by
    simp [Resource.content, guestFile]
  have lines : List.Forall₂ (Line.Reads .json) ((Resource.content
      ⟨"Guest", some "data/Guest.json", .json, false⟩ (guestFile guestLine)).lines
        TableOptions.standard.maxLineBytes) [some guestFields] := by
    rw [content, Content.lines_of_unended (by decide +kernel) (by decide +kernel)
      (by decide +kernel)]
    exact .cons ⟨_, rfl, line⟩ .nil
  obtain ⟨-, -, runs⟩ := select_all_of_sample sampledBy_guestFields
  obtain ⟨registered, connection, executed, there, shows⟩ :=
    runs two 0 bare _ _ _ _ false 14 [] rfl registering rfl selecting rfl
  obtain ⟨cursor, queried, rows⟩ := shows _ (guestFile guestLine) ⟨0, 0⟩ _ _ place lines (by
    rintro _ inside
    cases List.mem_singleton.1 inside
    exact sampledBy_guestFields)
  exact ⟨_, _, registered, connection, cursor, registering, selecting, executed, there, queried,
    rows⟩

end Session

end RecordQuery
