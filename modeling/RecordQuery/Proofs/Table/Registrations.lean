import RecordQuery.Proofs.Table.FirstWord
import RecordQuery.Proofs.Table.Histories

/-!
# Registrations by text

A registration is written as the words in front of its definition, with a blank behind each of
them, and the definition as it is. Only the words are read as tokens: the definition is the rest of
the text, without the blanks and semicolons around it. Executing a registration gives its name a
type, which the connection finds under this name until it registers another one.
-/

namespace RecordQuery

namespace Sql

variable {token : Token} {text rest : List Char}

/-! ## Texts of registrations -/

/-- The text of a registration. -/
def Registration.render (registration : Registration) : String :=
  "REGISTER " ++ (if registration.everywhere then "GLOBAL " else "") ++
    "TYPE \x60" ++ registration.name ++ "\x60 AS " ++ registration.definition

/-- The words of a registration in front of its definition. -/
def Registration.words (registration : Registration) : List Token :=
  .keyword .register :: ((if registration.everywhere then [.keyword .global_] else []) ++
    [.keyword .type_, .identifier registration.name, .keyword .as_])

theorem Registration.toList_render (registration : Registration) :
    registration.render.toList = spell registration.words ++ registration.definition.toList := by
  obtain ⟨name, everywhere, definition⟩ := registration
  cases everywhere <;>
    simp [render, words, spell, Token.spelling, Keyword.text, String.toList_append]

/-- A token is read in front of a blank, with blanks and comments before it left out. -/
theorem Cursor.next_of_spelling (writable : token.Writable) {cursor : Cursor}
    (here : skipTrivia .blank cursor.rest = token.spelling ++ ' ' :: rest) :
    ∃ behind : Cursor, cursor.next = .ok (token, behind) ∧ behind.rest = ' ' :: rest := by
  refine ⟨cursor.skip.advance (' ' :: rest), ?_, rfl⟩
  rw [Cursor.next, Cursor.rest_skip, here, scanToken_spelling writable]

/-- The next of several tokens is read behind the blank of the one before it. -/
theorem Cursor.next_of_spell (writable : token.Writable) {tokens : List Token} {cursor : Cursor}
    (here : cursor.rest = ' ' :: (spell (token :: tokens) ++ rest)) :
    ∃ behind : Cursor, cursor.next = .ok (token, behind) ∧
      behind.rest = ' ' :: (spell tokens ++ rest) := by
  apply next_of_spelling writable
  rw [here, spell_cons, List.append_assoc, List.cons_append]
  exact skipTrivia_spelling writable _

/-- Semicolons at the end are dropped up to a blank or the last character of the text. -/
theorem dropWhile_semicolons {blanks : List Char} (blank : Text.Blank blanks)
    (last : ∀ c ∈ text.getLast?, c ≠ ';') (count : Nat) :
    (text ++ (blanks ++ List.replicate count ';')).reverse.dropWhile (· == ';') =
      (text ++ blanks).reverse := by
  have stops : ∀ c ∈ (text ++ blanks).reverse.head?, (c == ';') = false := by
    intro c own
    rw [List.head?_reverse, List.getLast?_append] at own
    refine beq_false_of_ne ?_
    cases behind : blanks.getLast? with
    | none =>
        rw [behind] at own
        exact last c own
    | some d =>
        rw [behind] at own
        cases own
        have space := blank c (List.mem_of_getLast? behind)
        rintro rfl
        cases space
  rw [← List.append_assoc, List.reverse_append, List.reverse_replicate]
  exact Text.dropWhile_append_of_head? (by simp) stops

/-- Blanks around a definition and semicolons behind it are left out. -/
theorem trimDefinition_of_ends {front between behind : List Char} (count : Nat)
    (before : Text.Blank front) (inside : Text.Blank between) (after : Text.Blank behind)
    (first : ∃ c more, text = c :: more ∧ Text.isBlank c = false)
    (last : ∀ c ∈ text.getLast?, Text.isBlank c = false ∧ c ≠ ';') :
    trimDefinition (front ++ (text ++ (between ++ (List.replicate count ';' ++ behind)))) =
      text := by
  have head (rest : List Char) : ∀ c ∈ (text ++ rest).head?, Text.isBlank c = false := by
    obtain ⟨c, more, rfl, filled⟩ := first
    rintro _ ⟨⟩
    exact filled
  have own : ∀ c ∈ text.head?, Text.isBlank c = false := List.append_nil text ▸ head []
  have end_ : ∀ c ∈ text.getLast?, Text.isBlank c = false := fun c there => (last c there).1
  -- Blanks at the end hide behind semicolons, and go with them in the second trimming.
  have trimmed : ∃ left, Text.Blank left ∧
      Text.trimChars (front ++ (text ++ (between ++ (List.replicate count ';' ++ behind)))) =
        text ++ (left ++ List.replicate count ';') := by
    cases count with
    | zero =>
        have blank : Text.Blank (between ++ behind) := fun c member =>
          (List.mem_append.1 member).elim (inside c) (after c)
        have ends := Text.trimChars_of_ends text before blank own end_
        exact ⟨[], nofun, by simpa using ends⟩
    | succ count =>
        have mark : ∀ c ∈ (text ++ (between ++ List.replicate (count + 1) ';')).getLast?,
            Text.isBlank c = false := by
          rw [List.replicate_succ', ← List.append_assoc, ← List.append_assoc, List.getLast?_concat]
          rintro _ ⟨⟩
          decide
        have ends := Text.trimChars_of_ends _ before after (head _) mark
        exact ⟨between, inside, by simpa using ends⟩
  obtain ⟨left, blank, trimmed⟩ := trimmed
  have ends : Text.trimChars ([] ++ (text ++ left)) = text :=
    Text.trimChars_of_ends text nofun blank own end_
  rw [trimDefinition, trimmed, dropWhile_semicolons blank fun c there => (last c there).2,
    List.reverse_reverse]
  exact ends

/-- Behind the word REGISTER, the words of a registration and its definition are read. -/
theorem parseRegistration_words {registration : Registration} (plain : Plain registration.name)
    (some : trimDefinition text ≠ []) {start : Cursor}
    (here : start.rest = ' ' :: (spell registration.words.tail ++ text)) :
    parseRegistration start =
      .ok { registration with definition := String.ofList (trimDefinition text) } := by
  obtain ⟨name, everywhere, definition⟩ := registration
  -- The words are the same with and without `GLOBAL` in front of them.
  have behindScope {cursor : Cursor}
      (here : cursor.rest =
        ' ' :: (spell [.keyword .type_, .identifier name, .keyword .as_] ++ text)) :
      ∃ type name_ as_ : Cursor, cursor.next = .ok (.keyword .type_, type) ∧
        type.next = .ok (.identifier name, name_) ∧ name_.next = .ok (.keyword .as_, as_) ∧
        as_.rest = ' ' :: text := by
    have keyword (word : Keyword) : (Token.keyword word).Writable := trivial
    have identifier : (Token.identifier name).Writable := plain
    obtain ⟨type, read, here⟩ := Cursor.next_of_spell (keyword .type_) here
    obtain ⟨name_, readName, here⟩ := Cursor.next_of_spell identifier here
    obtain ⟨as_, readAs, here⟩ := Cursor.next_of_spell (keyword .as_) here
    exact ⟨type, name_, as_, read, readName, readAs, here⟩
  have blank : trimDefinition (' ' :: text) = trimDefinition text := rfl
  have filled : (trimDefinition text).isEmpty = false := by simpa using some
  cases everywhere with
  | false =>
      have scope : (Token.keyword .type_ == .keyword .global_) = false := by decide
      obtain ⟨type, name_, as_, read, readName, readAs, left⟩ := behindScope here
      simp only [parseRegistration, read, scope, Outcome.ok_bind, pure_bind, bne_self_eq_false,
        readName, readAs, left, blank, filled, if_false, Bool.false_eq_true]
      rfl
  | true =>
      have global : (Token.keyword .global_).Writable := trivial
      obtain ⟨scope, readScope, here⟩ := Cursor.next_of_spell global here
      obtain ⟨type, name_, as_, read, readName, readAs, left⟩ := behindScope here
      simp only [parseRegistration, readScope, beq_self_eq_true, read, Outcome.ok_bind, pure_bind,
        bne_self_eq_false, readName, readAs, left, blank, filled, if_false, if_true,
        Bool.false_eq_true]
      rfl

/-- The text of a registration is read as this registration, with a trimmed definition. -/
theorem Registration.parseStatement_render {registration : Registration}
    (plain : Plain registration.name) (some : trimDefinition registration.definition.toList ≠ []) :
    parseStatement registration.render = .ok (.register { registration with
      definition := String.ofList (trimDefinition registration.definition.toList) }) := by
  have first : (Token.keyword .register).Writable := trivial
  have here : skipTrivia .blank (Cursor.start registration.render 0).rest =
      (Token.keyword .register).spelling ++
        ' ' :: (spell registration.words.tail ++ registration.definition.toList) := by
    rw [Cursor.start, toList_render, words, spell_cons, List.append_assoc, List.cons_append]
    exact skipTrivia_spelling first _
  obtain ⟨behind, read, here⟩ := Cursor.next_of_spelling first here
  rw [parseStatement, read, Outcome.ok_bind]
  dsimp only
  rw [if_pos (by decide), parseRegistration_words plain some here]
  rfl

end Sql

/-- The text of a registration is prepared. -/
theorem Prepared.ofText_render (registration : Sql.Registration) {definition : List Char}
    (plain : Sql.Plain registration.name) (some : definition ≠ [])
    (trimmed : Sql.trimDefinition registration.definition.toList = definition) :
    ofText registration.render = .ok ⟨registration.render, .register { registration with
      definition := String.ofList definition }⟩ := by
  have front : registration.render.toList = "REGISTER".toList ++
      ' ' :: (Sql.spell registration.words.tail ++ registration.definition.toList) := by
    rw [registration.toList_render, Sql.Registration.words, Sql.spell_cons, List.append_assoc]
    rfl
  have behind : ∀ c ∈ (' ' :: (Sql.spell registration.words.tail ++
      registration.definition.toList)).head?, Text.isBlank c = true ∨ c = '(' := by
    rintro _ ⟨⟩
    exact .inl (by decide)
  have first : Sql.FirstWord registration.render.toList "REGISTER".toList :=
    ⟨by decide, List.all_eq_true.1 (by decide), [], _, front, nofun, behind⟩
  have known : keyword registration.render = Sql.Keyword.register.text :=
    keyword_eq_text_iff.2 ⟨_, first, by decide +kernel⟩
  rw [ofText, known, if_neg (by decide +kernel),
    registration.parseStatement_render plain (trimmed ▸ some), trimmed]
  rfl

namespace Session

variable {session : Session} {number : Nat} {own : Connection} {args : List Value}
  {type : RecordType} {registration : Sql.Registration}

theorem connections_update (there : session.connections[number]? = some own)
    (change : Connection → Connection) :
    (session.update number change).connections[number]? = some (change own) := by
  rw [update, List.getElem?_modify, there]
  exact congrArg some (if_pos rfl)

/-- A connection that prepares a statement takes the shared types over. -/
theorem connections_prepare (there : session.connections[number]? = some own) (sql : String) :
    (session.prepare number sql).2.connections[number]? = some (own.adopt session.shared) :=
  connections_update there _

/-- Executing a registration gives its type to its name on the connection, and for all where the
registration says so. -/
theorem exists_execute (there : session.connections[number]? = some own) (sql : String)
    (typed : registration.type args = .ok type) :
    ∃ registered, session.execute number ⟨sql, .register registration⟩ args = .ok registered ∧
      registered.connections[number]? = some (own.register registration.name type) ∧
      registered.shared = if registration.everywhere then
        session.shared.register registration.name type else session.shared := by
  refine ⟨(if registration.everywhere then session.share registration.name type
    else session).register number registration.name type, ?_, ?_, ?_⟩
  · simp only [execute, typed]
    rfl
  · refine connections_update ?_ _
    split <;> exact there
  · rw [register, update]
    split <;> rfl

end Session

namespace TypeRegistry

variable {registry : TypeRegistry} {name : String} {type : RecordType}

/-- A type that was registered is found by its name. -/
theorem lookup?_register : (registry.register name type).lookup? name = some type := by
  rw [lookup?, get?_register, if_pos rfl]
  rfl

/-- Types of other registries do not replace one that was registered. -/
theorem lookup?_merge_register (other : TypeRegistry) :
    ((registry.register name type).merge other).lookup? name = some type := by
  rw [lookup?, get?_merge, get?_register, if_pos rfl]
  rfl

end TypeRegistry

end RecordQuery
