import RecordQuery.Proofs.Instant
import RecordQuery.Proofs.Table.WholeCasts

/-!
# Types of columns that show one value

A cast gives null for null and an instance of its kind for every other value, with two exceptions.
Text that spells no finite number is cast to null, and a time whose year in UTC has not four digits
is cast to text that is no time. So a column that shows one value agrees with the type it reports
unless it shows such a time.
-/

namespace RecordQuery

open Sql (Expr Column)

/-! ## Casts -/

/-- A literal of a float becomes a number or null. -/
theorem FloatLiteral.toValue_cases (literal : FloatLiteral) :
    (∃ x, literal.finite? = some x ∧ literal.toValue = .number (.float x)) ∨
      literal.finite? = none ∧ literal.toValue = .null := by
  cases literal with
  | notANumber => exact .inr ⟨rfl, rfl⟩
  | number value =>
      cases value with
      | finite x => exact .inl ⟨x, rfl, rfl⟩
      | infinite negative => exact .inr ⟨rfl, rfl⟩

namespace ScalarKind

/-- The values that a kind takes, but not as its instances. -/
inductive Spoils : ScalarKind → Value → Prop where
  /-- Text for an infinity, for no number or for a number too large. -/
  | notFinite {s : String} {literal : FloatLiteral}
      (read : FloatLiteral.read? (Text.trimChars s.toList) = some literal)
      (beyond : literal.finite? = none) : Spoils .float (.string s)
  /-- A time whose year in UTC has not four digits. -/
  | farYear {s : String} {moment : Instant} (read : Instant.read? (Text.trim s) = some moment)
      (far : ¬ moment.HasFourDigitYear) : Spoils .time (.string s)

/-- What is shown for a value: null for null alone, and an instance of the kind otherwise. -/
structure ShownFor (kind : ScalarKind) (given shown : Value) : Prop where
  null : shown = .null ↔ given = .null
  typed : given ≠ .null → kind.accepts shown = true

theorem accepts_null (kind : ScalarKind) : kind.accepts .null = false := by
  cases kind <;> rfl

theorem shownFor_null (kind : ScalarKind) : kind.ShownFor .null .null :=
  ⟨Iff.rfl, fun present => absurd rfl present⟩

/-- For a value that is not null, any instance of the kind will do. -/
theorem shownFor_iff_accepts {kind : ScalarKind} {given shown : Value} (present : given ≠ .null) :
    kind.ShownFor given shown ↔ kind.accepts shown = true := by
  constructor
  · intro shows
    exact shows.typed present
  · intro typed
    constructor
    · constructor
      · rintro rfl
        rw [accepts_null] at typed
        cases typed
      · intro null
        exact absurd null present
    · intro _
      exact typed

/-- Text that spells no finite number is cast to null. -/
theorem cast?_of_notFinite {s : String} {literal : FloatLiteral}
    (read : FloatLiteral.read? (Text.trimChars s.toList) = some literal)
    (beyond : literal.finite? = none) : cast? .float (.string s) = some .null := by
  rw [cast?, read, Option.map_some]
  rcases literal.toValue_cases with ⟨x, finite, -⟩ | ⟨-, shows⟩
  · cases finite.symm.trans beyond
  · rw [shows]

/-- The texts that a cast to a float spoils. -/
theorem spoils_float_iff {s : String} {literal : FloatLiteral}
    (read : FloatLiteral.read? (Text.trimChars s.toList) = some literal) :
    Spoils .float (.string s) ↔ literal.finite? = none := by
  constructor
  · intro spoils
    cases spoils with
    | notFinite read' beyond =>
        cases read.symm.trans read'
        exact beyond
  · intro beyond
    exact .notFinite read beyond

/-- A cast to a time gives the text of a moment. -/
theorem exists_of_cast?_time {s : String} {shown : Value}
    (cast : cast? .time (.string s) = some shown) :
    ∃ moment, Instant.read? (Text.trim s) = some moment ∧ shown = .string moment.text := by
  rw [cast?, Option.map_eq_some_iff] at cast
  obtain ⟨moment, read, same⟩ := cast
  exact ⟨moment, read, same.symm⟩

/-- The texts that a cast to a time spoils. -/
theorem spoils_time_iff {s : String} {moment : Instant}
    (read : Instant.read? (Text.trim s) = some moment) :
    Spoils .time (.string s) ↔ ¬ moment.HasFourDigitYear := by
  constructor
  · intro spoils
    cases spoils with
    | farYear read' far =>
        cases read.symm.trans read'
        exact far
  · intro far
    exact .farYear read far

/-- A cast of a value that is not null gives an instance of the kind, unless the kind spoils the
value. -/
theorem accepts_iff_of_cast? {kind : ScalarKind} {given shown : Value} (present : given ≠ .null)
    (cast : kind.cast? given = some shown) : kind.accepts shown = true ↔ ¬ kind.Spoils given := by
  cases given with
  | null => exact absurd rfl present
  | number n =>
      cases kind with
      | int =>
          rcases exists_of_cast?_int cast with ⟨null, -⟩ | ⟨-, word, rfl⟩
          · cases null
          · exact iff_of_true rfl nofun
      | float | string =>
          cases cast
          exact iff_of_true rfl nofun
      | bool | time => cases cast
  | string s =>
      cases kind with
      | int =>
          rcases exists_of_cast?_int cast with ⟨null, -⟩ | ⟨-, word, rfl⟩
          · cases null
          · exact iff_of_true rfl nofun
      | float =>
          obtain ⟨literal, read, rfl⟩ := Option.map_eq_some_iff.1 cast
          rw [spoils_float_iff read]
          rcases literal.toValue_cases with ⟨x, finite, shows⟩ | ⟨beyond, shows⟩
          · rw [shows, finite]
            exact iff_of_true rfl nofun
          · rw [shows, beyond, accepts_null]
            exact iff_of_false nofun (fun apart => apart rfl)
      | string =>
          cases cast
          exact iff_of_true rfl nofun
      | bool =>
          obtain ⟨b, -, rfl⟩ := Option.map_eq_some_iff.1 cast
          exact iff_of_true rfl nofun
      | time =>
          obtain ⟨moment, read, rfl⟩ := exists_of_cast?_time cast
          rw [spoils_time_iff read, Decidable.not_not]
          exact Instant.isText_text_iff
  | bool b =>
      cases kind with
      | string | bool =>
          cases cast
          exact iff_of_true rfl nofun
      | int | float | time => cases cast
  | array | object => cases kind <;> cases cast

/-- A cast shows a value as it should, unless the kind spoils the value. -/
theorem shownFor_iff_of_cast {kind : ScalarKind} {label : String} {given shown : Value}
    (made : kind.cast label given = .ok shown) : kind.ShownFor given shown ↔ ¬ kind.Spoils given := by
  by_cases null : given = .null
  · subst null
    rw [cast_null] at made
    cases made
    exact iff_of_true (shownFor_null kind) nofun
  · rw [shownFor_iff_accepts null, accepts_iff_of_cast? null (cast_eq_ok_iff.1 made)]

end ScalarKind

/-! ## Columns -/

namespace OutputColumn

/-- A column that shows one value shows null or an instance of the kind that it reports. -/
def Agrees (column : OutputColumn) : Prop :=
  ∀ shown, column.source = .constant shown →
    ∃ kind, column.schema = .scalar kind ∧ (shown = .null ∨ kind.accepts shown = true)

/-- A column of times that shows the text of a moment whose year has not four digits. -/
def ShowsFarYear (column : OutputColumn) : Prop :=
  column.schema = .scalar .time ∧
    ∃ moment : Instant, column.source = .constant (.string moment.text) ∧ ¬ moment.HasFourDigitYear

theorem not_agrees_of_showsFarYear {column : OutputColumn} (far : column.ShowsFarYear) :
    ¬ column.Agrees := by
  obtain ⟨times, moment, source, far⟩ := far
  intro agrees
  obtain ⟨kind, schema, null | typed⟩ := agrees _ source
  · cases null
  · cases times.symm.trans schema
    exact far (Instant.isText_text_iff.1 typed)

theorem agrees_of_accepts {label : String} {kind : ScalarKind} {shown : Value}
    (typed : shown = .null ∨ kind.accepts shown = true) :
    Agrees ⟨label, .scalar kind, .constant shown⟩ := by
  intro value same
  cases same
  exact ⟨kind, rfl, typed⟩

theorem agrees_ofField (field : Accessor) (label : Option String) : (ofField field label).Agrees :=
  nofun

/-- A column of times that shows a moment shows a time, or a year that has not four digits. -/
theorem agrees_or_showsFarYear_text (label : String) (moment : Instant) :
    let column : OutputColumn := ⟨label, .scalar .time, .constant (.string moment.text)⟩
    column.Agrees ∨ column.ShowsFarYear := by
  by_cases near : moment.HasFourDigitYear
  · exact .inl (agrees_of_accepts (.inr (Instant.isText_text_iff.2 near)))
  · exact .inr ⟨rfl, moment, rfl, near⟩

theorem agrees_or_showsFarYear_cast {label : String} {kind : ScalarKind} {given shown : Value}
    (made : kind.cast label given = .ok shown) :
    let column : OutputColumn := ⟨label, .scalar kind, .constant shown⟩
    column.Agrees ∨ column.ShowsFarYear := by
  by_cases spoils : kind.Spoils given
  · cases spoils with
    | notFinite read beyond =>
        rw [ScalarKind.cast_eq_ok_iff, ScalarKind.cast?_of_notFinite read beyond] at made
        cases made
        exact .inl (agrees_of_accepts (.inl rfl))
    | farYear read far =>
        rw [ScalarKind.cast_eq_ok_iff] at made
        obtain ⟨moment, -, rfl⟩ := ScalarKind.exists_of_cast?_time made
        exact agrees_or_showsFarYear_text label moment
  · have shows := (ScalarKind.shownFor_iff_of_cast made).2 spoils
    by_cases null : given = .null
    · exact .inl (agrees_of_accepts (.inl (shows.null.2 null)))
    · exact .inl (agrees_of_accepts (.inr (shows.typed null)))

end OutputColumn

namespace RowPlan

variable {context : Context} {plan last : RowPlan} {column : Column}

theorem agrees_ofExpression {expr : Expr} {label : Option String} {made : OutputColumn}
    (built : ofExpression expr label = .ok made) : made.Agrees := by
  rcases Outcome.bind_eq_ok.1 built with ⟨name, -, built⟩
  cases literal : expr.literal? with
  | none =>
      rw [literal] at built
      cases built
  | some value =>
      simp only [literal] at built
      cases known : value.kind? with
      | none =>
          rw [known] at built
          cases built
      | some kind =>
          rw [known] at built
          cases built
          apply OutputColumn.agrees_of_accepts
          right
          rw [Value.kind?.eq_def] at known
          split at known
          all_goals cases known <;> rfl

theorem agrees_or_showsFarYear_ofCall {name : String} {parts : List Expr} {label : Option String}
    {consumed taken : Nat} {made : OutputColumn}
    (called : ofCall context name parts label consumed = .ok (made, taken)) :
    made.Agrees ∨ made.ShowsFarYear := by
  rcases Outcome.bind_eq_ok.1 called with ⟨function, -, called⟩
  cases function with
  | now =>
      cases called
      apply OutputColumn.agrees_or_showsFarYear_text
  | cast =>
      rcases Outcome.bind_eq_ok.1 called with ⟨⟨kind, source⟩, -, called⟩
      rcases Outcome.bind_eq_ok.1 called with ⟨⟨given, next⟩, -, called⟩
      rcases Outcome.bind_eq_ok.1 called with ⟨shown, cast, same⟩
      cases same
      exact OutputColumn.agrees_or_showsFarYear_cast cast

/-- One more entry of a column list adds columns that agree, or that show a year too far. -/
theorem agrees_or_showsFarYear_add (added : add context plan column = .ok last)
    (sound : ∀ one ∈ plan.columns, one.Agrees ∨ one.ShowsFarYear) :
    ∀ one ∈ last.columns, one.Agrees ∨ one.ShowsFarYear := by
  cases column with
  | star =>
      cases added
      refine List.forall_mem_append.2 ⟨sound, ?_⟩
      intro one member
      obtain ⟨field, -, rfl⟩ := List.mem_map.1 member
      exact .inl (OutputColumn.agrees_ofField field none)
  | field name label =>
      rw [add] at added
      split at added
      · rename_i field _
        cases added
        refine List.forall_mem_append.2 ⟨sound, ?_⟩
        rw [List.forall_mem_singleton]
        exact .inl (OutputColumn.agrees_ofField field label)
      · cases added
  | expression expr label =>
      rcases Outcome.bind_eq_ok.1 added with ⟨made, built, same⟩
      cases same
      refine List.forall_mem_append.2 ⟨sound, ?_⟩
      rw [List.forall_mem_singleton]
      exact .inl (agrees_ofExpression built)
  | call name parts label =>
      rcases Outcome.bind_eq_ok.1 added with ⟨⟨made, taken⟩, called, same⟩
      cases same
      refine List.forall_mem_append.2 ⟨sound, ?_⟩
      rw [List.forall_mem_singleton]
      exact agrees_or_showsFarYear_ofCall called

/-- A cast shows a value as it should unless the kind spoils the value. So a column of a bound list
that shows one value agrees with the type it reports unless it shows a year too far. -/
theorem constants_agree (kind : ScalarKind) (label : String) (given : Value) (context : Context)
    (columns : List Column) :
    (∀ shown, kind.cast label given = .ok shown →
      (kind.ShownFor given shown ↔ ¬ kind.Spoils given)) ∧
    (∀ plan, compile context columns = .ok plan →
      ∀ column ∈ plan.columns, column.Agrees ↔ ¬ column.ShowsFarYear) := by
  constructor
  · intro shown made
    exact ScalarKind.shownFor_iff_of_cast made
  · intro plan compiled column member
    have sound : ∀ one ∈ plan.columns, one.Agrees ∨ one.ShowsFarYear :=
      Outcome.of_foldlM_eq_ok agrees_or_showsFarYear_add compiled nofun
    constructor
    · intro agrees far
      exact OutputColumn.not_agrees_of_showsFarYear far agrees
    · intro near
      exact (sound column member).resolve_right near

/-- A time two hours ahead of UTC. -/
def aheadOfUtc : Value := .string "2024-01-02T03:04:05+02:00"

theorem constants_agree_aheadOfUtc :
    ScalarKind.time.ShownFor aheadOfUtc (.string "2024-01-02T01:04:05+00:00") ∧
    ∃ column, compile ⟨⟨0, 0⟩, ⟨"single", []⟩, [aheadOfUtc]⟩
        [.call "CAST" [.placeholder 0, .column "time"] (some "T")] = .ok ⟨[column], 1⟩ ∧
      column.Agrees := by
  have read : Instant.read? (Text.trim "2024-01-02T03:04:05+02:00") = some ⟨1704157445, 0⟩ := by
    decide +kernel
  have near : Instant.HasFourDigitYear ⟨1704157445, 0⟩ := by decide +kernel
  have shown : Instant.text ⟨1704157445, 0⟩ = "2024-01-02T01:04:05+00:00" := by decide +kernel
  have made : ScalarKind.time.cast "T" aheadOfUtc =
      .ok (.string "2024-01-02T01:04:05+00:00") := by
    rw [ScalarKind.cast_eq_ok_iff, aheadOfUtc, ScalarKind.cast?, read, Option.map_some, shown]
  have sound : ¬ ScalarKind.time.Spoils aheadOfUtc := by
    rw [aheadOfUtc, ScalarKind.spoils_time_iff read]
    exact fun far => far near
  have named := ofName_of_toLower (show "CAST".toLower = "cast" by decide +kernel)
  have target : ScalarKind.ofCastTarget? "time".toLower = some .time := by decide +kernel
  have compiled : compile ⟨⟨0, 0⟩, ⟨"single", []⟩, [aheadOfUtc]⟩
      [.call "CAST" [.placeholder 0, .column "time"] (some "T")] =
      .ok ⟨[⟨"T", .scalar .time, .constant (.string "2024-01-02T01:04:05+00:00")⟩], 1⟩ := by
    rw [compile, List.foldlM_cons, add, @ofCall_of_cast _ "CAST" [.placeholder 0, .column "time"]
      (some "T") 0 1 .time (.placeholder 0) aheadOfUtc named (castParts_of_target target) rfl]
    rw [Option.getD_some, made]
    rfl
  obtain ⟨shows, agrees⟩ := constants_agree .time "T" aheadOfUtc
    ⟨⟨0, 0⟩, ⟨"single", []⟩, [aheadOfUtc]⟩
    [.call "CAST" [.placeholder 0, .column "time"] (some "T")]
  constructor
  · exact (shows _ made).2 sound
  · refine ⟨_, compiled, ?_⟩
    rw [agrees _ compiled _ (List.mem_singleton_self _)]
    rintro ⟨-, moment, same, far⟩
    have same : "2024-01-02T01:04:05+00:00" = moment.text :=
      Value.string.inj (ColumnValue.constant.inj same)
    have isTime : Instant.isText "2024-01-02T01:04:05+00:00" = true := by decide +kernel
    rw [same] at isTime
    exact far (Instant.isText_text_iff.1 isTime)

/-- The text of an infinity is cast to null, and a time of the year zero ahead of UTC to text that is
no time. -/
theorem cast_spoils :
    ScalarKind.float.cast "N" (.string "inf") = .ok .null ∧
    ScalarKind.time.cast "T" (.string "0000-01-01T00:00:00+01:00") =
      .ok (.string "-0001-12-31T23:00:00+00:00") ∧
    ScalarKind.time.accepts (.string "-0001-12-31T23:00:00+00:00") = false := by
  have infinite : FloatLiteral.read? (Text.trimChars "inf".toList) =
      some (.number (.infinite false)) := by
    decide +kernel
  have zero : Instant.read? (Text.trim "0000-01-01T00:00:00+01:00") = some ⟨-62167222800, 0⟩ := by
    decide +kernel
  have before : Instant.text ⟨-62167222800, 0⟩ = "-0001-12-31T23:00:00+00:00" := by decide +kernel
  refine ⟨?_, ?_, ?_⟩
  · rw [ScalarKind.cast_eq_ok_iff, ScalarKind.cast?_of_notFinite infinite rfl]
  · rw [ScalarKind.cast_eq_ok_iff, ScalarKind.cast?, zero, Option.map_some, before]
  · decide +kernel

end RowPlan
end RecordQuery
