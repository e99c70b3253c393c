import RecordQuery.Proofs.Condition.Positions
import RecordQuery.Table.RowPlan

/-!
# Arguments of a column list

A column list takes the arguments of a run for the placeholders that it casts, one after the other
in the order of the columns, whatever their numbers are. So it shows what the columns say when each
of these placeholders is given the next argument.
-/

namespace RecordQuery

open Sql (Expr Column)

/-! ## What columns say -/

/-- The number of the placeholder that the arguments of a cast start from. -/
def castPlaceholder : List Expr → List Nat
  | [.placeholder index, .column _] => [index]
  | _ => []

/-- The number of the placeholder that a column takes an argument for, if it takes one. -/
def Sql.Column.asked : Column → List Nat
  | .call name args _ => if name.toLower == "cast" then castPlaceholder args else []
  | _ => []

namespace RowPlan

/-- The value that a cast starts from, with a value given for each placeholder. -/
def sourceGiven (given : Nat → Value) (label : String) : Expr → TableResult Value
  | .placeholder index => .ok (given index)
  | other =>
      match other.literal? with
      | some value => .ok value
      | none => .error (.argument (.unsupportedCastSource label other))

/-- The columns that an entry of a column list shows, with a value given for each placeholder. -/
def shown (now : Instant) (type : RecordType) (given : Nat → Value) :
    Column → TableResult (List OutputColumn)
  | .star => .ok (type.accessors.map fun field => OutputColumn.ofField field none)
  | .field name label =>
      match type.looseField? (Sql.unqualified name) with
      | some field => .ok [.ofField field label]
      | none => .error (.query (.resolution (.noColumn name type.name)))
  | .expression expr label => do return [← ofExpression expr label]
  | .call name args label => do
      let label := label.getD name
      match ← ColumnFunction.ofName name with
      | .now => return [⟨label, .scalar .time, .constant (.string now.text)⟩]
      | .cast =>
          let (kind, source) ← castParts label args
          let value ← sourceGiven given label source
          return [⟨label, .scalar kind, .constant (← kind.cast label value)⟩]

/-- The columns of a whole list, with a value given for each placeholder. -/
def shownAll (now : Instant) (type : RecordType) (given : Nat → Value) :
    List Column → TableResult (List OutputColumn)
  | [] => .ok []
  | column :: rest => do
      let first ← shown now type given column
      return first ++ (← shownAll now type given rest)

/-- The columns of a whole list, where each placeholder that is cast takes the next argument. -/
def shownFrom (now : Instant) (type : RecordType) (args : List Value) :
    Nat → List Column → TableResult (List OutputColumn)
  | _, [] => .ok []
  | taken, column :: rest => do
      let first ← shown now type (fun _ => args.getD taken .null) column
      return first ++ (← shownFrom now type args (taken + column.asked.length) rest)

/-! ## Columns take arguments in turn -/

variable {now : Instant} {type : RecordType} {args : List Value} {plan last : RowPlan}

theorem ofName_cast {name : String} (cast : ColumnFunction.ofName name = .ok .cast) :
    (name.toLower == "cast") = true := by
  rw [ColumnFunction.ofName] at cast
  split at cast
  · assumption
  · split at cast <;> cases cast

theorem ofName_now {name : String} (cast : ColumnFunction.ofName name = .ok .now) :
    (name.toLower == "cast") = false := by
  rw [ColumnFunction.ofName] at cast
  split at cast
  · cases cast
  · rename_i other
    exact Bool.eq_false_iff.2 other

/-- A cast has a source and a target. -/
theorem castParts_eq_ok {label : String} {parts : List Expr} {kind : ScalarKind} {source : Expr}
    (found : castParts label parts = .ok (kind, source)) :
    ∃ target, parts = [source, .column target] := by
  rw [castParts.eq_def] at found
  split at found
  · split at found <;> cases found
    exact ⟨_, rfl⟩
  · cases found

/-- A cast from a placeholder starts from the next argument, if there is one. -/
theorem castSource_eq_sourceGiven {label : String} {source : Expr} {target : String} {taken : Nat}
    (enough : castPlaceholder [source, .column target] = [] ∨ taken < args.length) :
    castSource ⟨now, type, args⟩ label taken source =
      (·, taken + (castPlaceholder [source, .column target]).length) <$>
        sourceGiven (fun _ => args.getD taken .null) label source := by
  cases source with
  | placeholder index =>
      rcases enough with none | inside
      · cases none
      · rw [castSource, sourceGiven, List.getD_eq_getElem?_getD, List.getElem?_eq_getElem inside]
        rfl
  | _ => rfl

/-- One more column takes the next argument for the placeholder that it casts. -/
theorem add_eq_shown {column : Column}
    (enough : column.asked = [] ∨ plan.consumed < args.length) :
    add ⟨now, type, args⟩ plan column =
      (fun columns => ⟨plan.columns ++ columns, plan.consumed + column.asked.length⟩) <$>
        shown now type (fun _ => args.getD plan.consumed .null) column := by
  cases column with
  | star => rfl
  | field name label =>
      rw [add, shown]
      dsimp only
      cases type.looseField? (Sql.unqualified name) <;> rfl
  | expression expr label =>
      rw [add, shown]
      cases ofExpression expr label <;> rfl
  | call name parts label =>
      cases named : ColumnFunction.ofName name with
      | error error => simp only [add, shown, ofCall, named, Outcome.error_bind, Outcome.map_error]
      | ok function =>
          cases function with
          | now =>
              have none : (Column.call name parts label).asked = [] := by
                rw [Column.asked, ofName_now named]
                rfl
              simp only [add, shown, ofCall, named, none]
              rfl
          | cast =>
              have own : (Column.call name parts label).asked = castPlaceholder parts := by
                rw [Column.asked, if_pos (ofName_cast named)]
              rw [own] at enough ⊢
              simp only [add, shown, ofCall, named, Outcome.ok_bind]
              cases split : castParts (label.getD name) parts with
              | error error => rfl
              | ok pair =>
                  rcases pair with ⟨kind, source⟩
                  rcases castParts_eq_ok split with ⟨target, rfl⟩
                  simp only [Outcome.ok_bind, castSource_eq_sourceGiven enough]
                  cases sourceGiven (fun _ => args.getD plan.consumed .null) (label.getD name)
                    source with
                  | error error => rfl
                  | ok value =>
                      simp only [Outcome.map_ok, Outcome.ok_bind]
                      cases kind.cast (label.getD name) value <;> rfl

end RowPlan

namespace RowPlan

variable {now : Instant} {type : RecordType} {args : List Value} {plan last : RowPlan}
  {column : Column} {columns : List Column}

/-- How many arguments a column list takes. -/
def askedCount (columns : List Column) : Nat := (columns.flatMap Column.asked).length

theorem askedCount_cons (column : Column) (rest : List Column) :
    askedCount (column :: rest) = column.asked.length + askedCount rest := by
  rw [askedCount, List.flatMap_cons, List.length_append, askedCount]

/-- A column takes an argument for one placeholder at most. -/
theorem asked_cases (column : Column) : column.asked = [] ∨ ∃ index, column.asked = [index] := by
  cases column with
  | call name parts label =>
      rw [Column.asked]
      split
      · rw [castPlaceholder.eq_def]
        split
        · exact .inr ⟨_, rfl⟩
        · exact .inl rfl
      · exact .inl rfl
  | _ => exact .inl rfl

/-- Without an argument left, a placeholder cannot be cast. -/
theorem add_ne_ok_of_short {index : Nat} (asks : column.asked = [index])
    (short : args.length ≤ plan.consumed) : add ⟨now, type, args⟩ plan column ≠ .ok last := by
  intro found
  cases column with
  | call name parts label =>
      rw [Column.asked] at asks
      split at asks
      · rename_i cast
        rw [castPlaceholder.eq_def] at asks
        split at asks
        · rcases Outcome.bind_eq_ok.1 found with ⟨⟨made, taken⟩, called, -⟩
          rcases Outcome.bind_eq_ok.1 called with ⟨function, named, called⟩
          cases function with
          | now =>
              rw [ofName_now named] at cast
              cases cast
          | cast =>
              rcases Outcome.bind_eq_ok.1 called with ⟨⟨kind, source⟩, split, called⟩
              rcases castParts_eq_ok split with ⟨target, same⟩
              cases same
              rcases Outcome.bind_eq_ok.1 called with ⟨⟨value, taken⟩, sourced, -⟩
              rw [castSource, List.getElem?_eq_none short] at sourced
              cases sourced
        · cases asks
      · cases asks
  | _ => cases asks

end RowPlan

namespace RowPlan

variable {now : Instant} {type : RecordType} {args : List Value} {plan last : RowPlan}
  {column : Column} {columns : List Column}

/-- With enough arguments, a column list shows its columns with the arguments taken in turn. -/
theorem foldlM_add_eq_shownFrom (enough : plan.consumed + askedCount columns ≤ args.length) :
    columns.foldlM (add ⟨now, type, args⟩) plan =
      (fun more => ⟨plan.columns ++ more, plan.consumed + askedCount columns⟩) <$>
        shownFrom now type args plan.consumed columns := by
  induction columns generalizing plan with
  | nil =>
      change Except.ok plan = .ok ⟨plan.columns ++ [], plan.consumed + 0⟩
      rw [List.append_nil]
      rfl
  | cons column rest ih =>
      rw [askedCount_cons] at enough ⊢
      have own : column.asked = [] ∨ plan.consumed < args.length := by
        rcases asked_cases column with none | ⟨index, one⟩
        · exact .inl none
        · rw [one, List.length_singleton] at enough
          exact .inr (by omega)
      rw [List.foldlM_cons, add_eq_shown own, shownFrom]
      cases shown now type (fun _ => args.getD plan.consumed .null) column with
      | error error => rfl
      | ok first =>
          simp only [Outcome.map_ok, Outcome.ok_bind]
          rw [ih (by dsimp only; omega)]
          cases shownFrom now type args (plan.consumed + column.asked.length) rest with
          | error error => rfl
          | ok others =>
              simp only [Outcome.map_ok, Outcome.ok_bind, Outcome.pure_eq, List.append_assoc,
                Nat.add_assoc]

/-- A column list that was bound had enough arguments. -/
theorem le_of_foldlM_add (within : plan.consumed ≤ args.length)
    (found : columns.foldlM (add ⟨now, type, args⟩) plan = .ok last) :
    plan.consumed + askedCount columns ≤ args.length := by
  induction columns generalizing plan with
  | nil => exact within
  | cons column rest ih =>
      rcases Outcome.bind_eq_ok.1 found with ⟨next, added, found⟩
      have own : column.asked = [] ∨ plan.consumed < args.length := by
        rcases asked_cases column with none | ⟨index, one⟩
        · exact .inl none
        · exact .inr (Nat.lt_of_not_le fun short => add_ne_ok_of_short one short added)
      rw [add_eq_shown own] at added
      rcases Outcome.map_eq_ok.1 added with ⟨made, -, rfl⟩
      have inside : plan.consumed + column.asked.length ≤ args.length := by
        rcases own with none | less
        · rw [none]
          exact within
        · rcases asked_cases column with none | ⟨index, one⟩
          · rw [none]
            exact within
          · rw [one]
            exact less
      have behind := ih inside found
      rw [askedCount_cons, ← Nat.add_assoc]
      exact behind

/-- What binding a column list takes: enough arguments, and columns that are shown with them. -/
theorem compile_eq_ok_iff :
    compile ⟨now, type, args⟩ columns = .ok plan ↔
      askedCount columns ≤ args.length ∧
        shownFrom now type args 0 columns = .ok plan.columns ∧ plan.consumed = askedCount columns := by
  constructor
  · intro found
    have enough := le_of_foldlM_add (Nat.zero_le _) found
    rw [Nat.zero_add] at enough
    rw [compile, foldlM_add_eq_shownFrom (by simpa using enough)] at found
    rcases Outcome.map_eq_ok.1 found with ⟨columns, shown, rfl⟩
    exact ⟨enough, shown, Nat.zero_add _⟩
  · rintro ⟨enough, shown, consumed⟩
    rw [compile, foldlM_add_eq_shownFrom (by simpa using enough), shown, Outcome.map_ok]
    rcases plan with ⟨columns, taken⟩
    cases consumed
    simp only [List.nil_append, Nat.zero_add]
    rfl

/-! ## Values given by number -/

/-- Only the placeholder that a column asks for matters to it. -/
theorem shown_congr {given other : Nat → Value}
    (same : ∀ index ∈ column.asked, given index = other index) :
    shown now type given column = shown now type other column := by
  cases column with
  | call name parts label =>
      rw [shown, shown]
      cases named : ColumnFunction.ofName name with
      | error error => rfl
      | ok function =>
          cases function with
          | now => rfl
          | cast =>
              simp only [Outcome.ok_bind]
              cases split : castParts (label.getD name) parts with
              | error error => rfl
              | ok pair =>
                  rcases pair with ⟨kind, source⟩
                  rcases castParts_eq_ok split with ⟨target, rfl⟩
                  have sources : sourceGiven given (label.getD name) source =
                      sourceGiven other (label.getD name) source := by
                    cases source with
                    | placeholder index =>
                        rw [sourceGiven, sourceGiven, same index]
                        rw [Column.asked, if_pos (ofName_cast named)]
                        exact List.mem_singleton_self index
                    | _ => rfl
                  simp only [Outcome.ok_bind, sources]
  | _ => rfl

/-- A column that asks for a placeholder shows a cast of what it is given. -/
theorem shown_of_asked {given : Nat → Value} {index : Nat} {made : List OutputColumn}
    (asks : column.asked = [index]) (found : shown now type given column = .ok made) :
    ∃ label kind, ∀ other : Nat → Value, shown now type other column =
      (fun value => [⟨label, .scalar kind, .constant value⟩]) <$> kind.cast label (other index) := by
  cases column with
  | call name parts label =>
      rw [Column.asked] at asks
      split at asks
      · rename_i cast
        rcases Outcome.bind_eq_ok.1 found with ⟨function, named, found⟩
        cases function with
        | now =>
            rw [ofName_now named] at cast
            cases cast
        | cast =>
            rcases Outcome.bind_eq_ok.1 found with ⟨⟨kind, source⟩, split, -⟩
            rcases castParts_eq_ok split with ⟨target, rfl⟩
            rw [castPlaceholder.eq_def] at asks
            split at asks
            · rename_i same
              cases same
              cases asks
              refine ⟨label.getD name, kind, fun other => ?_⟩
              simp only [shown, named, split, Outcome.ok_bind, sourceGiven]
              cases kind.cast (label.getD name) (other index) <;> rfl
            · cases asks
      · cases asks
  | _ => cases asks

/-- Placeholders that are given the next arguments are shown with these. -/
theorem shownAll_eq_shownFrom {given : Nat → Value} {taken : Nat}
    (placed : (columns.flatMap Column.asked).map given <+: args.drop taken) :
    shownAll now type given columns = shownFrom now type args taken columns := by
  induction columns generalizing taken with
  | nil => rfl
  | cons column rest ih =>
      rw [List.flatMap_cons, List.map_append] at placed
      rcases given_append placed with ⟨own, behind⟩
      rw [List.length_map] at behind
      have first : shown now type given column =
          shown now type (fun _ => args.getD taken .null) column := by
        refine shown_congr fun index inside => ?_
        rcases asked_cases column with none | ⟨only, one⟩
        · rw [none] at inside
          cases inside
        · rw [one] at own inside
          cases List.mem_singleton.1 inside
          exact (given_cons own).1.symm
      rw [shownAll, shownFrom, first, ih behind]

end RowPlan

/-! ## Arguments that tell columns apart -/

namespace ScalarKind

theorem cast_eq_ok_iff {kind : ScalarKind} {label : String} {given shown : Value} :
    kind.cast label given = .ok shown ↔ kind.cast? given = some shown := by
  rw [cast]
  cases kind.cast? given <;> simp

theorem cast_null (kind : ScalarKind) (label : String) : kind.cast label .null = .ok .null := by
  cases kind <;> rfl

/-- Every kind has a value that a cast keeps apart from null. -/
theorem exists_sample (kind : ScalarKind) :
    ∃ sample value, value.isNull = false ∧ ∀ label, kind.cast label sample = .ok value := by
  cases kind with
  | int => exact ⟨.ofInt64 0, .ofInt64 0, rfl, fun _ => rfl⟩
  | float => exact ⟨.ofInt64 0, _, rfl, fun _ => rfl⟩
  | string => exact ⟨.string "", .string "", rfl, fun _ => rfl⟩
  | bool => exact ⟨.bool true, .bool true, rfl, fun _ => rfl⟩
  | time =>
      have known : (Instant.read? (Text.trim "1970-01-01T00:00:00Z")).isSome = true := by decide
      rcases Option.isSome_iff_exists.1 known with ⟨moment, read⟩
      refine ⟨.string "1970-01-01T00:00:00Z", .string moment.text, rfl, fun label => ?_⟩
      rw [cast, cast?, read]
      rfl

end ScalarKind

namespace RowPlan

variable {now : Instant} {type : RecordType} {args other : List Value} {columns : List Column}
  {made : List OutputColumn} {taken : Nat}

/-- A column list that is shown with some arguments is shown with null for each of them. -/
theorem shownFrom_of_null (found : shownFrom now type args taken columns = .ok made)
    (null : ∀ place, taken ≤ place → other.getD place .null = .null) :
    ∃ others, shownFrom now type other taken columns = .ok others := by
  induction columns generalizing taken made with
  | nil => exact ⟨[], rfl⟩
  | cons column rest ih =>
      rcases Outcome.bind_eq_ok.1 found with ⟨first, shows, found⟩
      rcases Outcome.bind_eq_ok.1 found with ⟨behind, showsBehind, -⟩
      rcases ih showsBehind (fun place low => null place (by omega)) with ⟨others, showsOthers⟩
      have own : ∃ one, shown now type (fun _ => other.getD taken .null) column = .ok one := by
        rcases asked_cases column with none | ⟨index, asks⟩
        · refine ⟨first, ?_⟩
          rw [← shows]
          exact shown_congr (by simp [none])
        · rcases shown_of_asked asks shows with ⟨label, kind, casts⟩
          rw [casts, null taken (Nat.le_refl _), kind.cast_null]
          exact ⟨_, rfl⟩
      rcases own with ⟨one, showsOne⟩
      rw [shownFrom, showsOne, Outcome.ok_bind, showsOthers]
      exact ⟨_, rfl⟩

/-- An argument shows where it went: with some value at its place and null everywhere else, the
columns are not those that null for the placeholder would give. -/
def Telling (now : Instant) (type : RecordType) (columns : List Column) (taken place index : Nat) :
    Prop :=
  ∃ sample, ∀ other : List Value, other.getD place .null = sample →
    (∀ place', place' ≠ place → other.getD place' .null = .null) →
    ∃ telling, shownFrom now type other taken columns = .ok telling ∧
      ∀ given : Nat → Value, given index = .null → shownAll now type given columns ≠ .ok telling

section Telling

variable {column : Column} {given : Nat → Value} {one telling : List OutputColumn}
  {only index place : Nat}

/-- The columns of a whole list tell the first one from those behind it. -/
theorem shown_of_shownAll (length : ∀ own, shown now type given column = .ok own →
      own.length = one.length)
    (all : shownAll now type given (column :: columns) = .ok (one ++ telling)) :
    shown now type given column = .ok one ∧ shownAll now type given columns = .ok telling := by
  rcases Outcome.bind_eq_ok.1 all with ⟨own, showsOwn, all⟩
  rcases Outcome.bind_eq_ok.1 all with ⟨others, showsOthers, same⟩
  rcases List.append_inj (Except.ok.inj same) (length own showsOwn) with ⟨rfl, rfl⟩
  exact ⟨showsOwn, showsOthers⟩

/-- A column that asks for a placeholder is shown as one column, and as null for null. -/
theorem shown_null_of_asked (asks : column.asked = [only])
    (shows : shown now type given column = .ok one) :
    ∃ label kind, (∀ given : Nat → Value, given only = .null →
        shown now type given column = .ok [⟨label, .scalar kind, .constant .null⟩]) ∧
      (∀ given : Nat → Value, ∀ own, shown now type given column = .ok own → own.length = 1) ∧
      ∃ sample value, value.isNull = false ∧ ∀ given : Nat → Value, given only = sample →
        shown now type given column = .ok [⟨label, .scalar kind, .constant value⟩] := by
  rcases shown_of_asked asks shows with ⟨label, kind, casts⟩
  rcases kind.exists_sample with ⟨sample, value, present, cast⟩
  refine ⟨label, kind, fun given isNull => ?_, fun given own showsOwn => ?_, sample, value, present,
    fun given same => ?_⟩
  · rw [casts, isNull, kind.cast_null]
    rfl
  · rw [casts] at showsOwn
    rcases Outcome.map_eq_ok.1 showsOwn with ⟨value, -, rfl⟩
    rfl
  · rw [casts, same, cast]
    rfl

/-- A column that asks for nothing stands before those that tell. -/
theorem Telling.skip (none : column.asked = []) (shows : shown now type given column = .ok one)
    (tells : Telling now type columns taken place index) :
    Telling now type (column :: columns) taken place index := by
  have alike (given : Nat → Value) : shown now type given column = .ok one := by
    rw [← shows]
    exact shown_congr (by simp [none])
  rcases tells with ⟨sample, tells⟩
  refine ⟨sample, fun other there null => ?_⟩
  rcases tells other there null with ⟨telling, showsTelling, differs⟩
  refine ⟨one ++ telling, ?_, fun given isNull all => ?_⟩
  · rw [shownFrom, alike, Outcome.ok_bind, none, List.length_nil, Nat.add_zero, showsTelling]
    rfl
  · refine differs given isNull (shown_of_shownAll (fun own showsOwn => ?_) all).2
    rw [alike] at showsOwn
    cases showsOwn
    rfl

/-- The placeholder of a column tells at the place that the column takes. -/
theorem Telling.here (asks : column.asked = [index])
    (shows : shown now type given column = .ok one)
    (behind : shownFrom now type args (taken + 1) columns = .ok made) :
    Telling now type (column :: columns) taken taken index := by
  rcases shown_null_of_asked asks shows with
    ⟨label, kind, shownNull, single, sample, value, present, shownSample⟩
  refine ⟨sample, fun other there null => ?_⟩
  have low : ∀ place, taken + 1 ≤ place → other.getD place .null = .null := by
    intro place low
    exact null place (by omega)
  rcases shownFrom_of_null behind low with ⟨others, showsOthers⟩
  refine ⟨[⟨label, .scalar kind, .constant value⟩] ++ others, ?_, fun given isNull all => ?_⟩
  · have showsOwn := shownSample (fun _ => other.getD taken .null) there
    rw [shownFrom, showsOwn, Outcome.ok_bind, asks, List.length_singleton, showsOthers]
    rfl
  · have own := (shown_of_shownAll (single given) all).1
    rw [shownNull given isNull] at own
    cases own
    cases present

/-- A column that asks for a placeholder stands before those that tell. -/
theorem Telling.behind (asks : column.asked = [only])
    (shows : shown now type given column = .ok one) (low : taken < place)
    (tells : Telling now type columns (taken + 1) place index) :
    Telling now type (column :: columns) taken place index := by
  rcases shown_null_of_asked asks shows with ⟨label, kind, shownNull, single, -⟩
  rcases tells with ⟨sample, tells⟩
  refine ⟨sample, fun other there null => ?_⟩
  rcases tells other there null with ⟨telling, showsTelling, differs⟩
  refine ⟨[⟨label, .scalar kind, .constant .null⟩] ++ telling, ?_, fun given isNull all => ?_⟩
  · have showsOwn := shownNull (fun _ => other.getD taken .null) (null taken (by omega))
    rw [shownFrom, showsOwn, Outcome.ok_bind, asks, List.length_singleton, showsTelling]
    rfl
  · exact differs given isNull (shown_of_shownAll (single given) all).2

end Telling

/-- At every place there is an argument that shows where it went. -/
theorem exists_telling (found : shownFrom now type args taken columns = .ok made) {place index : Nat}
    (here : (columns.flatMap Column.asked)[place]? = some index) :
    Telling now type columns taken (taken + place) index := by
  induction columns generalizing taken made place with
  | nil => cases here
  | cons column rest ih =>
      rcases Outcome.bind_eq_ok.1 found with ⟨first, shows, found⟩
      rcases Outcome.bind_eq_ok.1 found with ⟨behind, showsBehind, -⟩
      rw [List.flatMap_cons] at here
      rcases asked_cases column with none | ⟨only, asks⟩
      · rw [none] at here showsBehind
        exact .skip none shows (ih showsBehind here)
      · rw [asks] at here showsBehind
        cases place with
        | zero =>
            cases here
            exact .here asks shows showsBehind
        | succ place =>
            have step : taken + [only].length + place = taken + (place + 1) := by
              rw [List.length_singleton]
              omega
            exact .behind asks shows (by omega) (step ▸ ih showsBehind here)

end RowPlan

end RecordQuery
