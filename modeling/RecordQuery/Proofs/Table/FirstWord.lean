import RecordQuery.Proofs.Sql.Spelling
import RecordQuery.Proofs.Text.Blanks
import RecordQuery.Table.Statement

/-!
# Statements that are prepared

A statement is told from other SQL by its first word before it is parsed. That word is looked for
between blanks and opening parentheses, while tokens also end at comments, quotes and signs. So not
every statement that parses is prepared: its first word has to stand by itself.
-/

namespace RecordQuery

namespace Sql

/-! ## First words -/

/-- The first word of a text stands by itself: only blanks are in front of it, and a blank, an
opening parenthesis or nothing is behind it. -/
structure FirstWord (text word : List Char) : Prop where
  nonempty : word ≠ []
  chars : ∀ c ∈ word, Text.isWordChar c = true
  placed : ∃ blanks rest, text = blanks ++ (word ++ rest) ∧
    (∀ c ∈ blanks, Text.isBlank c = true) ∧
    ∀ c ∈ rest.head?, Text.isBlank c = true ∨ c = '('

/-- A character that ends what is taken for the first word. -/
def endsFirstWord (c : Char) : Bool := Text.isBlank c || c == '('

/-- No character of a word ends it. -/
theorem endsFirstWord_eq_false {c : Char} (word : Text.isWordChar c = true) :
    endsFirstWord c = false := by
  have notBlank := Text.isBlank_eq_false_of_isWordChar word
  have notParen : c ≠ '(' := by
    intro same
    subst same
    cases word
  simp [endsFirstWord, notBlank, notParen]

theorem isWordChar_eq_false_of_ends {c : Char} (ends : Text.isBlank c = true ∨ c = '(') :
    Text.isWordChar c = false := by
  cases ends with
  | inl blank => exact Text.isWordChar_eq_false_of_isBlank blank
  | inr paren =>
      subst paren
      rfl

namespace FirstWord

variable {text word : List Char}

/-- Tokens start with the first word. -/
theorem takeWhile_skipTrivia (first : FirstWord text word) :
    (skipTrivia .blank text).takeWhile Text.isWordChar = word := by
  obtain ⟨blanks, rest, rfl, space, behind⟩ := first.placed
  obtain ⟨c, more, rfl⟩ := List.exists_cons_of_ne_nil first.nonempty
  have isWord := first.chars c List.mem_cons_self
  have plain := endsFirstWord_eq_false isWord
  rw [endsFirstWord, Bool.or_eq_false_iff] at plain
  have noHyphen : c ≠ '-' := by
    intro same
    subst same
    cases isWord
  have noSlash : c ≠ '/' := by
    intro same
    subst same
    cases isWord
  rw [skipTrivia_blanks space, List.cons_append, skipTrivia_cons _ noHyphen noSlash plain.1,
    ← List.cons_append]
  apply Text.takeWhile_append_of_head? first.chars
  intro c next
  exact isWordChar_eq_false_of_ends (behind c next)

/-- The first word is what stands between blanks and opening parentheses. -/
theorem takeWhile_dropWhile (first : FirstWord text word) :
    (text.dropWhile Text.isBlank).takeWhile (!endsFirstWord ·) = word := by
  obtain ⟨blanks, rest, rfl, space, behind⟩ := first.placed
  obtain ⟨c, more, rfl⟩ := List.exists_cons_of_ne_nil first.nonempty
  have plain := endsFirstWord_eq_false (first.chars c List.mem_cons_self)
  rw [endsFirstWord, Bool.or_eq_false_iff] at plain
  have found : (blanks ++ (c :: more ++ rest)).dropWhile Text.isBlank = c :: more ++ rest := by
    rw [List.dropWhile_append_of_pos space, List.cons_append, List.dropWhile_cons_of_neg]
    simp [plain.1]
  rw [found]
  apply Text.takeWhile_append_of_head?
  · intro c inside
    simp [endsFirstWord_eq_false (first.chars c inside)]
  · intro c next
    have ends : endsFirstWord c = true := by
      rw [endsFirstWord, Bool.or_eq_true, beq_iff_eq]
      exact behind c next
    simp [ends]

end FirstWord

/-- What stands between blanks and opening parentheses is a first word if it is a word. -/
theorem firstWord_of_takeWhile {text word : List Char} (nonempty : word ≠ [])
    (chars : ∀ c ∈ word, Text.isWordChar c = true)
    (found : (text.dropWhile Text.isBlank).takeWhile (!endsFirstWord ·) = word) :
    FirstWord text word where
  nonempty := nonempty
  chars := chars
  placed := by
    let start := text.dropWhile Text.isBlank
    refine ⟨text.takeWhile Text.isBlank, start.dropWhile (!endsFirstWord ·), ?_, ?_, ?_⟩
    · rw [← found, List.takeWhile_append_dropWhile, List.takeWhile_append_dropWhile]
    · intro c inside
      exact List.mem_takeWhile_imp inside
    · intro c next
      have ends : endsFirstWord c = true := by
        have stopped := List.head?_dropWhile_not (!endsFirstWord ·) start
        rw [Option.mem_def.1 next] at stopped
        simpa using stopped
      rw [endsFirstWord, Bool.or_eq_true, beq_iff_eq] at ends
      exact ends

/-! ## Keywords -/

theorem Keyword.text_of_ofWord? {word : String} {keyword : Keyword}
    (found : Keyword.ofWord? word = some keyword) : word.toUpper = keyword.text := by
  have same := List.find?_some found
  exact (beq_iff_eq.1 same).symm

/-- Keywords are spelled in letters. -/
theorem Keyword.isWordChar_of_toUpper {word : List Char} {keyword : Keyword}
    (spelled : (String.ofList word).toUpper = keyword.text) :
    word ≠ [] ∧ ∀ c ∈ word, Text.isWordChar c = true := by
  rcases Keyword.isAlpha_of_toUpper spelled with ⟨some, letters⟩
  exact ⟨some, fun c inside => isWordChar_of_isAlpha (letters c inside)⟩

/-- A keyword is read from the word at the front of a text. -/
theorem toUpper_of_scanToken {text rest : List Char} {keyword : Keyword}
    (scanned : scanToken text = .ok (.keyword keyword, rest)) :
    (String.ofList (text.takeWhile Text.isWordChar)).toUpper = keyword.text := by
  unfold scanToken at scanned
  split at scanned
  · cases scanned
  split at scanned
  · cases cases_of_scanNumber scanned with
    | inl integer =>
        obtain ⟨n, same⟩ := integer
        cases same
    | inr float =>
        obtain ⟨x, same⟩ := float
        cases same
  split at scanned
  · split at scanned <;> cases scanned
  split at scanned
  · split at scanned <;> cases scanned
  split at scanned
  · obtain ⟨token, -⟩ := Prod.mk.inj (Except.ok.inj scanned)
    unfold wordToken at token
    dsimp only at token
    split at token
    · cases token
      apply Keyword.text_of_ofWord?
      assumption
    · cases token
  · split at scanned <;> cases scanned
    rename_i found
    cases cases_of_scanSymbol found with
    | inl placeholder => cases placeholder
    | inr symbol =>
        obtain ⟨sign, same⟩ := symbol
        cases same

/-- A statement starts with SELECT or REGISTER. -/
theorem keyword_of_parseStatement {text : String} {statement : Statement}
    (parsed : parseStatement text = .ok statement) :
    ∃ keyword rest, (keyword = .select ∨ keyword = .register) ∧
      scanToken (skipTrivia .blank text.toList) = .ok (.keyword keyword, rest) := by
  obtain ⟨⟨first, behind⟩, read, parsed⟩ := Outcome.bind_eq_ok.1 parsed
  dsimp only at parsed
  split at parsed
  · rename_i register
    have same : first = .keyword .register := by simpa using register
    subst same
    unfold Cursor.next at read
    dsimp only at read
    split at read <;> cases read
    rename_i scanned
    exact ⟨.register, _, .inr rfl, scanned⟩
  · obtain ⟨select, selected, -⟩ := Outcome.bind_eq_ok.1 parsed
    obtain ⟨tokens, tokenized, selected⟩ := Outcome.bind_eq_ok.1 selected
    dsimp only at selected
    split at selected
    · rcases tokenizeFrom_eq_ok tokenized with ⟨-, none⟩ | ⟨token, rest, more, -, scanned, -, same⟩
      · cases none
      · cases same
        exact ⟨.select, rest, .inl rfl, scanned⟩
    · cases selected

end Sql

namespace Prepared

open Sql (FirstWord)

theorem keyword_eq (sql : String) :
    keyword sql = (String.ofList
      ((sql.toList.dropWhile Text.isBlank).takeWhile (!Sql.endsFirstWord ·))).toUpper := by
  have same : (fun c => !Text.isBlank c && c != '(') = (!Sql.endsFirstWord ·) := by
    funext c
    simp [Sql.endsFirstWord, bne]
  rw [keyword, same]

/-- The keyword of a statement is its first word. -/
theorem keyword_eq_text_iff {sql : String} {known : Sql.Keyword} :
    keyword sql = known.text ↔
      ∃ word, FirstWord sql.toList word ∧ (String.ofList word).toUpper = known.text := by
  rw [keyword_eq]
  constructor
  · intro spelled
    obtain ⟨nonempty, chars⟩ := Sql.Keyword.isWordChar_of_toUpper spelled
    exact ⟨_, Sql.firstWord_of_takeWhile nonempty chars rfl, spelled⟩
  · rintro ⟨word, first, spelled⟩
    rw [first.takeWhile_dropWhile, spelled]

/-- Behind a known first word, parsing decides. -/
theorem isOk_ofText {sql : String} (known : keyword sql = "SELECT" ∨ keyword sql = "REGISTER") :
    (ofText sql).isOk = (Sql.parseStatement sql).isOk := by
  have passes : (keyword sql != "SELECT" && keyword sql != "REGISTER") = false := by
    cases known with
    | inl select => simp [select]
    | inr register => simp [register]
  rw [ofText, passes]
  cases Sql.parseStatement sql with
  | error error => rfl
  | ok statement => cases statement <;> rfl

theorem ofText_of_unknown {sql : String}
    (unknown : ¬(keyword sql = "SELECT" ∨ keyword sql = "REGISTER")) :
    ofText sql = .error (.statement (.unsupportedKind sql)) := by
  rw [not_or] at unknown
  have refused : (keyword sql != "SELECT" && keyword sql != "REGISTER") = true := by
    simp [unknown.1, unknown.2]
  rw [ofText, if_pos refused]
  rfl

/-- The first word of a statement that parses is known, if it stands by itself. -/
theorem keyword_of_firstWord {sql : String} {word : List Char} {statement : Sql.Statement}
    (parsed : Sql.parseStatement sql = .ok statement) (first : FirstWord sql.toList word) :
    keyword sql = "SELECT" ∨ keyword sql = "REGISTER" := by
  obtain ⟨known, rest, either, scanned⟩ := Sql.keyword_of_parseStatement parsed
  have spelled := Sql.toUpper_of_scanToken scanned
  rw [first.takeWhile_skipTrivia] at spelled
  have own : keyword sql = known.text := keyword_eq_text_iff.2 ⟨word, first, spelled⟩
  cases either with
  | inl select =>
      subst select
      exact .inl own
  | inr register =>
      subst register
      exact .inr own

theorem exists_firstWord {sql : String}
    (known : keyword sql = "SELECT" ∨ keyword sql = "REGISTER") :
    ∃ word, FirstWord sql.toList word := by
  have spelled : ∃ known : Sql.Keyword, keyword sql = known.text := by
    cases known with
    | inl select => exact ⟨.select, select⟩
    | inr register => exact ⟨.register, register⟩
  obtain ⟨known, same⟩ := spelled
  obtain ⟨word, first, -⟩ := keyword_eq_text_iff.1 same
  exact ⟨word, first⟩

/-- A statement is prepared exactly where it parses and its first word stands by itself. Where that
word does not, the statement is refused for its kind, whether it parses or not. -/
theorem ofText_isOk_iff (sql : String) :
    ((ofText sql).isOk = true ↔
      (Sql.parseStatement sql).isOk = true ∧ ∃ word, FirstWord sql.toList word) ∧
    ((∃ word, FirstWord sql.toList word) ∨
      ofText sql = .error (.statement (.unsupportedKind sql))) := by
  by_cases known : keyword sql = "SELECT" ∨ keyword sql = "REGISTER"
  · have first := exists_firstWord known
    rw [isOk_ofText known, and_iff_left first]
    exact ⟨Iff.rfl, .inl first⟩
  · have failed := ofText_of_unknown known
    constructor
    · rw [failed]
      constructor
      · nofun
      · rintro ⟨parses, word, first⟩
        obtain ⟨statement, parsed⟩ := Outcome.exists_of_isOk parses
        exact absurd (keyword_of_firstWord parsed first) known
    · exact .inr failed

/-- A star, a comment or a quote right behind the first word, or a comment in front of it, keeps a
statement that parses from being prepared. -/
theorem refused_by_first_word :
    ["SELECT*FROM Foo", "/* all */ SELECT * FROM Foo", "SELECT/**/ * FROM Foo",
        "SELECT'a' AS A FROM Foo", "REGISTER/**/TYPE Foo AS ?"].map
      (fun sql => ((Sql.parseStatement sql).isOk, (ofText sql).isOk)) =
      List.replicate 5 (true, false) := by
  decide +kernel

end Prepared

end RecordQuery
