import RecordQuery.Proofs.Sql.ReadSelect

/-!
# The text of a SELECT

A SELECT that is written and read again is the same, with each source at the offset where its text
stands. All tokens that it is written with are read back from their spelling, so its text holds
these tokens, and its reader takes them all.
-/

namespace RecordQuery.Sql

/-! ## Tokens -/

/-- Tokens that are all read back from their spelling. -/
def AllWritable (tokens : List Token) : Prop := ∀ token ∈ tokens, token.Writable

namespace AllWritable

variable {token : Token} {tokens front back : List Token}

@[simp] theorem nil : AllWritable [] := fun _ inside => absurd inside List.not_mem_nil

@[simp] theorem cons_iff : AllWritable (token :: tokens) ↔ token.Writable ∧ AllWritable tokens :=
  List.forall_mem_cons

@[simp] theorem append_iff : AllWritable (front ++ back) ↔ AllWritable front ∧ AllWritable back :=
  List.forall_mem_append

theorem enclosed (writable : AllWritable tokens) (own place : Level) :
    AllWritable (enclosed own place tokens) := by
  unfold Sql.enclosed
  split
  · simp [Token.Writable, writable]
  · exact writable

theorem intercalate {separator : Token} {lists : List (List Token)} (own : separator.Writable)
    (each : ∀ tokens ∈ lists, AllWritable tokens) :
    AllWritable ([separator].intercalate lists) := by
  induction lists with
  | nil => exact nil
  | cons first others ih =>
      have behind := fun tokens inside => each tokens (List.mem_cons_of_mem first inside)
      cases others with
      | nil => simpa using each
      | cons second more =>
          rw [List.intercalate_cons_cons, append_iff, append_iff]
          exact ⟨⟨each first List.mem_cons_self, cons_iff.2 ⟨own, nil⟩⟩, ih behind⟩

end AllWritable

theorem toInt_neg_of_natAbs_lt {value : Int64} (size : value.toInt.natAbs < 0x8000000000000000) :
    (-value).toInt = -value.toInt := by
  rw [Int64.toInt_neg]
  exact Int.bmod_eq_of_le (by omega) (by omega)

/-- The size of a whole number is one that a token has. -/
theorem allWritable_integer {value : Int64} (size : value.toInt.natAbs < 0x8000000000000000)
    (place : Level) : AllWritable ((Expr.integer value).write place) := by
  rw [Expr.write]
  by_cases negative : value < 0
  · rw [Int64.lt_iff_toInt_lt, Int64.toInt_zero] at negative
    have own := toInt_neg_of_natAbs_lt size
    rw [if_pos (by rwa [Int64.lt_iff_toInt_lt, Int64.toInt_zero])]
    simp only [AllWritable.cons_iff, AllWritable.nil, Token.Writable, own, and_true, true_and]
    omega
  · rw [if_neg negative]
    rw [Int64.lt_iff_toInt_lt, Int64.toInt_zero] at negative
    simp only [AllWritable.cons_iff, AllWritable.nil, Token.Writable, and_true]
    omega

theorem allWritable_float {value : ExtDouble} (back : ReadsBack value) (place : Level) :
    AllWritable ((Expr.float value).write place) := by
  rw [Expr.write]
  split <;> simpa [Token.Writable, ReadsBack] using back

theorem writable_separator (name : String) (args : List Expr) :
    (separator name args).Writable := by
  rcases separator_cases name args with same | ⟨-, -, -, same⟩
  · rw [same]
    trivial
  · rw [same]
    trivial

theorem allWritable_of_mem_writeEach {items : List Expr}
    (each : ∀ item ∈ items, AllWritable (item.write .disjunction)) :
    ∀ tokens ∈ writeEach items, AllWritable tokens := by
  rw [writeEach_eq_map]
  intro tokens inside
  rcases List.mem_map.1 inside with ⟨item, listed, rfl⟩
  exact each item listed

/-- All tokens of a written expression are read back from their spelling. -/
theorem Expr.allWritable_write (expr : Expr) (writable : expr.Writable) (place : Level) :
    AllWritable (expr.write place) := by
  induction expr using Expr.induction generalizing place with
  | column name => simpa [Expr.write, Expr.Writable, Token.Writable] using writable
  | qualified table column =>
      simpa [Expr.write, Expr.Writable, Token.Writable] using writable
  | integer value => exact allWritable_integer writable place
  | float value => exact allWritable_float writable place
  | string value | boolean value | null | placeholder index => simp [Expr.write, Token.Writable]
  | binary op left right ihLeft ihRight =>
      have first := ihLeft writable.1
      have second := ihRight writable.2
      cases op <;> exact AllWritable.enclosed (by simp [first, second, Token.Writable]) _ place
  | not operand ih | isNull operand ih | isNotNull operand ih =>
      have own := ih writable
      exact AllWritable.enclosed (by simp [own, Token.Writable]) _ place
  | inList operand items negated ihOperand ihItems =>
      rcases writable with ⟨writable, -, listed⟩
      have own := ihOperand writable .operand
      have each := fun item inside =>
        ihItems item inside (writable_of_mem listed inside) .disjunction
      have list : AllWritable ([.symbol .comma].intercalate (writeEach items)) :=
        AllWritable.intercalate trivial (allWritable_of_mem_writeEach each)
      refine AllWritable.enclosed ?_ _ place
      cases negated <;> simp [own, list, Token.Writable]
  | call name args ih =>
      rcases writable with ⟨plain, listed⟩
      have each := fun arg inside => ih arg inside (writable_of_mem listed inside) .disjunction
      have list : AllWritable ([separator name args].intercalate (writeEach args)) :=
        AllWritable.intercalate (writable_separator name args) (allWritable_of_mem_writeEach each)
      simpa [Expr.write, Token.Writable, list] using plain

theorem allWritable_writeLabel {label : Option String} (plain : ∀ own ∈ label, Plain own) :
    AllWritable (writeLabel label) := by
  cases label with
  | none => exact .nil
  | some label => simpa [writeLabel, Token.Writable] using plain

theorem Column.allWritable_write {entry : Column} (writable : entry.Writable) :
    AllWritable entry.write := by
  cases entry with
  | star => simp [Column.write, Token.Writable]
  | field name label =>
      have behind := allWritable_writeLabel writable.2
      simpa [Column.write, Token.Writable, behind] using writable.1
  | call name args label =>
      have own := (Expr.call name args).allWritable_write writable.1 .operand
      exact AllWritable.append_iff.2 ⟨own, allWritable_writeLabel writable.2⟩
  | expression expr label =>
      have own := expr.allWritable_write writable.1 .operand
      exact AllWritable.append_iff.2 ⟨own, allWritable_writeLabel writable.2.2⟩

theorem allWritable_writeColumns {entries : List Column}
    (writable : ∀ entry ∈ entries, entry.Writable) : AllWritable (writeColumns entries) := by
  have list : AllWritable ([.symbol .comma].intercalate (entries.map Column.write)) := by
    refine AllWritable.intercalate trivial fun tokens inside => ?_
    rcases List.mem_map.1 inside with ⟨entry, listed, rfl⟩
    exact Column.allWritable_write (writable entry listed)
  simp [writeColumns, list, Token.Writable]

theorem allWritable_writeClauses {filter : Option Expr} {limit : Option Nat}
    (filters : ∀ expr ∈ filter, expr.Writable)
    (small : ∀ count ∈ limit, count < 0x8000000000000000) :
    AllWritable (writeClauses filter limit) := by
  refine AllWritable.append_iff.2 ⟨?_, ?_⟩
  · cases filter with
    | none => exact .nil
    | some filter =>
        have own := filter.allWritable_write (filters filter rfl) .disjunction
        simp [writeFilter, own, Token.Writable]
  · cases limit with
    | none => exact .nil
    | some count =>
        have size : (Int64.ofNat count).toInt = count := Int64.toInt_ofNat_of_lt (small count rfl)
        simp [writeLimit, Token.Writable, size]

/-- All tokens of a written SELECT are read back from their spelling. -/
theorem Select.allWritable_write (select : Select) (writable : select.Writable) :
    AllWritable select.write := by
  fun_induction Select.write select with
  | case1 entries name offset filter limit =>
      rcases writable with ⟨listed, plain, filters, small⟩
      have front := allWritable_writeColumns listed
      have behind := allWritable_writeClauses filters small
      simpa [front, behind, Token.Writable] using plain
  | case2 entries inner offset filter limit ih =>
      rcases writable with ⟨listed, writable, filters, small⟩
      have front := allWritable_writeColumns listed
      have behind := allWritable_writeClauses filters small
      simpa [front, behind, Token.Writable] using ih writable

/-! ## Whole texts -/

/-- A text whose first token is `SELECT` registers nothing. -/
theorem parseStatement_of_tokens {text : String} {position : Nat} {rest : List Located}
    (tokenized : tokenize text 0 = .ok (⟨.keyword .select, position⟩ :: rest)) :
    parseStatement text = .select <$> parseSelection text := by
  rcases tokenizeFrom_eq_ok tokenized with ⟨-, same⟩ | ⟨token, behind, more, -, scanned, -, same⟩
  · cases same
  · cases same
    have first : (Cursor.start text 0).next =
        .ok (.keyword .select, (Cursor.start text 0).skip.advance behind) := by
      rw [Cursor.next, scanned]
    rw [parseStatement, first]
    rfl

/-- Nothing is left of a text, or a semicolon alone. -/
def AtEnd (tokens : List Located) : Prop :=
  expectEnd tokens = .ok () ∨
    ∃ position rest, tokens = ⟨.symbol .semicolon, position⟩ :: rest ∧ expectEnd rest = .ok ()

theorem exists_cons_of_select {tokens : List Located} {n : Nat} {parsed : Parsed Select tokens}
    (found : select tokens n = .ok parsed) :
    ∃ position rest, tokens = ⟨.keyword .select, position⟩ :: rest := by
  rw [select.eq_def] at found
  rcases Outcome.bind_eq_ok.1 found with ⟨⟨rest, opened⟩, opens, -⟩
  rcases expect_eq_ok opens with ⟨position, front⟩
  exact ⟨position, rest, front⟩

/-- A text holds a SELECT exactly when this is read from its tokens up to the end. -/
theorem parseSelect_eq_ok_iff {text : String} {statement : Select} :
    parseSelect text = .ok statement ↔
      ∃ tokens whole, tokenize text 0 = .ok tokens ∧ select tokens 0 = .ok whole ∧
        AtEnd whole.rest ∧ whole.value = statement := by
  constructor
  · intro found
    rcases Outcome.bind_eq_ok.1 found with ⟨read, parsed, same⟩
    cases read with
    | register registration => cases same
    | select other =>
        cases same
        rcases Outcome.bind_eq_ok.1 parsed with ⟨⟨first, cursor⟩, -, parsed⟩
        dsimp only at parsed
        split at parsed
        · rcases Outcome.bind_eq_ok.1 parsed with ⟨registration, -, same⟩
          cases same
        · rcases Outcome.bind_eq_ok.1 parsed with ⟨selected, selection, same⟩
          cases same
          rcases Outcome.bind_eq_ok.1 selection with ⟨tokens, tokenized, selection⟩
          dsimp only at selection
          split at selection
          · rcases Outcome.bind_eq_ok.1 selection with ⟨whole, read, selection⟩
            rcases Outcome.bind_eq_ok.1 selection with ⟨done, ended, same⟩
            cases same
            refine ⟨_, whole, tokenized, read, ?_, rfl⟩
            split at ended
            · rename_i position rest next
              exact .inr ⟨position, rest, next, ended⟩
            · exact .inl ended
          · cases selection
  · rintro ⟨tokens, whole, tokenized, read, atEnd, rfl⟩
    rcases exists_cons_of_select read with ⟨position, rest, rfl⟩
    rw [parseSelect, parseStatement_of_tokens tokenized, parseSelection, tokenized,
      Outcome.ok_bind]
    dsimp only
    rw [read, Outcome.ok_bind]
    split
    · rename_i next
      rcases atEnd with ended | ⟨place, rest, same, ended⟩
      · rw [next] at ended
        cases ended
      · cases next.symm.trans same
        rw [ended]
        rfl
    · rename_i none
      rcases atEnd with ended | ⟨place, rest, same, -⟩
      · rw [ended]
        rfl
      · exact absurd same (none place rest)

namespace Select

variable (select : Select)

theorem exists_write_eq : ∃ behind, select.write = .keyword .select :: behind := by
  fun_cases Select.write select
  · exact ⟨_, rfl⟩
  · exact ⟨_, rfl⟩

theorem parseStatement_render (writable : select.Writable) :
    parseStatement select.render = .select <$> parseSelection select.render := by
  rcases select.exists_write_eq with ⟨behind, front⟩
  have tokens := tokenize_spell (select.allWritable_write writable)
  rw [front, placed, List.cons_append, ← front] at tokens
  exact parseStatement_of_tokens tokens

theorem parseSelection_render (writable : select.Writable) (listed : select.HasColumns)
    (numbered : select.placeholders = List.range select.placeholders.length) :
    parseSelection select.render = .ok (select.placedAt 0) := by
  rcases select.exists_write_eq with ⟨behind, front⟩
  have row : InRow 0 select.placeholders := numbered.trans List.range_eq_range'
  have stop : ahead endsSelect [⟨.endOfInput, (spell select.write).length⟩] = true := rfl
  have own := select.gives_write writable listed row stop 0
  have tokens := tokenize_spell (select.allWritable_write writable)
  rw [front, placed, List.cons_append] at own tokens
  rcases own with ⟨shorter, read⟩
  rw [parseSelection, render, front, tokens, Outcome.ok_bind]
  dsimp only
  rw [read]
  rfl

/-- The text of a SELECT is read as this SELECT, with each source at the offset of its first
character. -/
theorem parseSelect_render (writable : select.Writable) (listed : select.HasColumns)
    (numbered : select.placeholders = List.range select.placeholders.length) :
    parseSelect select.render = .ok (select.placedAt 0) := by
  rw [parseSelect, parseStatement_render select writable,
    parseSelection_render select writable listed numbered]
  rfl

/-- A SELECT from another one, with conditions on both. -/
def titled : Select where
  columns := [.field "Name" (some "Title"), .call "count" [.column "*"] none]
  source := .nested
    { columns := [.star, .expression (.binary .or (.placeholder 0) (.boolean true)) none]
      source := .table "Foo"
      sourceOffset := 0
      filter := some (.binary (.compare .gt) (.column "Score")
        (.float (.ofDecimal true 5 (-1))))
      limit := none }
  sourceOffset := 0
  filter := some (.binary .and
    (.binary .or (.binary (.compare .eq) (.column "Name") (.string "it's"))
      (.inList (.qualified "Foo" "Id") [.placeholder 1, .integer (-7)] true))
    (.not (.isNull (.column "Id"))))
  limit := some 10

/-- Only what binds looser than its place asks for stands between parentheses. -/
theorem parseSelect_titled :
    titled.render =
        "SELECT `Name` AS `Title` , `count` ( `*` ) FROM ( SELECT * , ( ? OR TRUE ) FROM `Foo` " ++
          "WHERE `Score` > - 0.5 ) WHERE ( `Name` = 'it\\'s' OR `Foo` . `Id` NOT IN ( ? , - 7 ) ) " ++
            "AND NOT `Id` IS NULL LIMIT 10 " ∧
      parseSelect titled.render = .ok (titled.placedAt 0) := by
  have plain : Plain "Name" ∧ Plain "Title" ∧ Plain "count" ∧ Plain "*" ∧ Plain "Foo" ∧
      Plain "Score" ∧ Plain "Id" := by
    decide
  have back : ReadsBack (.ofDecimal true 5 (-1)) := by decide +kernel
  refine ⟨by decide +kernel, parseSelect_render titled ?_ ?_ rfl⟩
  · simp [titled, Select.Writable, Column.Writable, Expr.Writable, EachWritable, Column.ofExpr,
      plain, back]
  · simp [titled, HasColumns]

/-- A SELECT without columns. -/
def columnless : Select := ⟨[], .table "Foo", 0, none, none⟩

/-- A SELECT without columns can be written and is not read back. -/
theorem parseSelect_columnless :
    columnless.Writable ∧
      columnless.placeholders = List.range columnless.placeholders.length ∧
      parseSelect columnless.render ≠ .ok (columnless.placedAt 0) := by
  have plain : Plain "Foo" := by decide
  refine ⟨by simp [columnless, Writable, plain], rfl, ?_⟩
  intro same
  have refused : (parseSelect columnless.render).toOption.isSome = false := by decide +kernel
  rw [same] at refused
  cases refused

end Select

end RecordQuery.Sql
