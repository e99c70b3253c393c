import RecordQuery.Proofs.Schema.Layers
import RecordQuery.Proofs.Table.Registrations

/-!
# Writing definitions

A record type whose fields hold scalars, under any number of optional layers and arrays, is written
as `struct` with one field after the other in braces. Between the fields stand semicolons or line
ends, and blanks may stand around all words. Whatever the arrangement, the definition is read as
this record type again, and a registration with it gives this record type to the name.
-/

namespace RecordQuery

/-! ## Fields -/

/-- A name that a field can have in a definition: letters, digits and underscores of ASCII, with no
digit at the front. -/
def IsFieldName (name : String) : Prop :=
  ∃ first rest, name.toList = first :: rest ∧ (first.isAlpha = true ∨ first = '_') ∧
    ∀ c ∈ rest, c.isAlphanum = true ∨ c = '_'

/-- A record type that can be written. -/
structure RecordType.Definable (type : RecordType) : Prop where
  nonempty : type.fields ≠ []
  names : ∀ field ∈ type.fields, IsFieldName field.1
  scalars : ∀ field ∈ type.fields, field.2.innermostRecord? = none

namespace Schema

variable {schema : Schema}

/-- The text of a schema without a record is read as this schema. -/
theorem ofDefinition?_text (scalar : schema.innermostRecord? = none) :
    ofDefinition? schema.text.toList = some schema := by
  induction schema using layers with
  | optional inner ih =>
      rw [text, String.toList_append]
      exact congrArg (Option.map optional) (ih scalar)
  | array element ih =>
      rw [text, String.toList_append]
      exact congrArg (Option.map array) (ih scalar)
  | scalar kind => cases kind <;> decide +kernel
  | record name fields => cases scalar

/-- A schema without a record is written as one word without semicolons. -/
theorem word_text (scalar : schema.innermostRecord? = none) :
    Text.Word schema.text.toList ∧ ';' ∉ schema.text.toList := by
  induction schema using layers with
  | optional inner ih =>
      have star : Text.Word "*".toList := Text.word_of_all (by decide) (by decide)
      rw [text, String.toList_append]
      exact ⟨star.append (ih scalar).1, by simpa using (ih scalar).2⟩
  | array element ih =>
      have brackets : Text.Word "[]".toList := Text.word_of_all (by decide) (by decide)
      rw [text, String.toList_append]
      exact ⟨brackets.append (ih scalar).1, by simpa using (ih scalar).2⟩
  | scalar kind =>
      have word : Text.Word kind.name.toList := by
        cases kind <;> exact Text.word_of_all (by decide) (by decide)
      exact ⟨word, by cases kind <;> decide⟩
  | record name fields => cases scalar

end Schema

theorem isWordChar_of_isAlphanum {c : Char} (plain : c.isAlphanum = true ∨ c = '_') :
    Text.isWordChar c = true := by
  rcases plain with plain | rfl
  · rw [Char.isAlphanum, Bool.or_eq_true] at plain
    rcases plain with alpha | digit
    · simp [Text.isWordChar, Text.isAlphabetic_of_isAlpha alpha]
    · simp [Text.isWordChar, Text.isNumeric_of_isDigit digit]
  · decide

theorem isDigit_eq_false_of_isAlpha {c : Char} (alpha : c.isAlpha = true) :
    c.isDigit = false := by
  have above : '9'.val.toNat < c.val.toNat := by
    rcases Bool.or_eq_true_iff.1 alpha with upper | lower
    · have low : 'A'.val ≤ c.val := (of_decide_eq_true upper).1
      exact Nat.lt_of_lt_of_le (by decide) (UInt32.le_iff_toNat_le.1 low)
    · have low : 'a'.val ≤ c.val := of_decide_eq_true (Bool.and_eq_true_iff.1 lower).1
      exact Nat.lt_of_lt_of_le (by decide) (UInt32.le_iff_toNat_le.1 low)
  refine Bool.and_eq_false_iff.2 (.inr (decide_eq_false fun high => ?_))
  exact absurd (UInt32.le_iff_toNat_le.1 high) (Nat.not_le.2 above)

/-- The name of a field is one word without semicolons, and is taken for a name. -/
theorem IsFieldName.word {name : String} (named : IsFieldName name) :
    Text.Word name.toList ∧ ';' ∉ name.toList ∧ RecordType.isFieldName name.toList = true := by
  obtain ⟨first, rest, same, start, others⟩ := named
  have chars : ∀ c ∈ name.toList, c.isAlphanum = true ∨ c = '_' := by
    rw [same]
    refine List.forall_mem_cons.2 ⟨start.imp (fun alpha => ?_) id, others⟩
    simp [Char.isAlphanum, alpha]
  have head : first.isDigit = false := by
    rcases start with alpha | rfl
    · exact isDigit_eq_false_of_isAlpha alpha
    · rfl
  refine ⟨⟨by simp [same], fun c inside => ?_⟩, fun inside => ?_, ?_⟩
  · exact Text.isBlank_eq_false_of_isWordChar (isWordChar_of_isAlphanum (chars c inside))
  · exact absurd (chars _ inside) (by decide)
  · have all : name.toList.all (fun c => c.isAlphanum || c == '_') = true := by
      simpa using chars
    rw [RecordType.isFieldName, all, same]
    simp [head]

namespace RecordType

variable {type : RecordType} {field : String × Schema} {fields : List (String × Schema)}
  {text rest body : List Char} {separator : Char}

/-! ## Texts of definitions -/

/-- Blanks within a line. -/
def Gap (text : List Char) : Prop := ∀ c ∈ text, Text.isBlank c = true ∧ c ≠ '\n'

/-- What stands between two fields. -/
def Separates (separator : Char) : Prop := separator = ';' ∨ separator = '\n'

/-- A text is one field of a definition: its name and its schema with blanks between and around. -/
inductive WritesField (field : String × Schema) : List Char → Prop where
  | mk {front between behind : List Char} (before : Gap front) (apart : Gap between)
      (some : between ≠ []) (after : Gap behind) : WritesField field
        (front ++ (field.1.toList ++ (between ++ (field.2.text.toList ++ behind))))

/-- A text is a list of fields with separators between them. Parts of it may be blank. -/
inductive WritesFields : List (String × Schema) → List Char → Prop where
  | blank {blanks : List Char} (gap : Gap blanks) : WritesFields [] blanks
  | last {field : String × Schema} {text : List Char} (own : WritesField field text) :
      WritesFields [field] text
  | skip {fields : List (String × Schema)} {blanks rest : List Char} {separator : Char}
      (gap : Gap blanks) (separates : Separates separator) (others : WritesFields fields rest) :
      WritesFields fields (blanks ++ separator :: rest)
  | next {field : String × Schema} {fields : List (String × Schema)} {text rest : List Char}
      {separator : Char} (own : WritesField field text) (separates : Separates separator)
      (others : WritesFields fields rest) :
      WritesFields (field :: fields) (text ++ separator :: rest)

/-- A text in braces behind `struct` and blanks. -/
def enclosed (blanks body : List Char) : List Char :=
  "struct".toList ++ (blanks ++ '\x7b' :: (body ++ ['\x7d']))

theorem enclosed_eq (blanks body : List Char) :
    enclosed blanks body = "struct".toList ++ (blanks ++ '\x7b' :: (body ++ ['\x7d'])) := rfl

/-- A text is a definition of a record type. -/
inductive Writes (type : RecordType) : List Char → Prop where
  | mk {blanks body : List Char} (blank : Text.Blank blanks)
      (fields : WritesFields type.fields body) : Writes type (enclosed blanks body)

/-- How a field is written. -/
def fieldText (field : String × Schema) : List Char :=
  field.1.toList ++ ' ' :: field.2.text.toList

/-- How a record type is written: with a semicolon and a blank between the fields. -/
def definition (type : RecordType) : List Char :=
  enclosed [] ("; ".toList.intercalate (type.fields.map fieldText))

theorem gap_blank : Gap [' '] := by
  rintro _ ⟨⟩
  · decide
  · contradiction

theorem writesField_fieldText (field : String × Schema) {front : List Char} (before : Gap front) :
    WritesField field (front ++ fieldText field) := by
  have written : WritesField field
      (front ++ (field.1.toList ++ ([' '] ++ (field.2.text.toList ++ [])))) :=
    .mk before gap_blank (List.cons_ne_nil ' ' []) nofun
  rwa [List.append_nil] at written

theorem writesFields_intercalate (some : fields ≠ []) {front : List Char} (before : Gap front) :
    WritesFields fields (front ++ "; ".toList.intercalate (fields.map fieldText)) := by
  induction fields generalizing front with
  | nil => exact absurd rfl some
  | cons field rest ih =>
      cases rest with
      | nil =>
          rw [List.map_singleton, List.intercalate_singleton]
          exact .last (writesField_fieldText field before)
      | cons next rest =>
          -- The blank behind a semicolon is in front of the next field.
          have others := ih (List.cons_ne_nil next rest) gap_blank
          have written := WritesFields.next (writesField_fieldText field before) (.inl rfl) others
          rw [List.append_assoc] at written
          exact written

/-- What is written is a definition. -/
theorem Definable.writes (definable : type.Definable) : type.Writes type.definition := by
  have none : Gap [] := nofun
  exact .mk nofun (writesFields_intercalate definable.nonempty none)

/-! ## Reading fields -/

/-- No separator is in a text. -/
def Unseparated (text : List Char) : Prop := ∀ c ∈ text, ¬Separates c

theorem Gap.blank (gap : Gap text) : Text.Blank text := fun c inside => (gap c inside).1

theorem Gap.unseparated (gap : Gap text) : Unseparated text := by
  rintro c inside (rfl | rfl)
  · exact absurd (gap _ inside).1 (by decide)
  · exact (gap _ inside).2 rfl

/-- A word without semicolons has no separator: line ends are blank. -/
theorem unseparated_of_word (word : Text.Word text) (plain : ';' ∉ text) : Unseparated text := by
  rintro c inside (rfl | rfl)
  · exact plain inside
  · exact absurd (word.filled _ inside) (by decide)

theorem Unseparated.append (clean : Unseparated text) (other : Unseparated rest) :
    Unseparated (text ++ rest) :=
  fun c inside => (List.mem_append.1 inside).elim (clean c) (other c)

theorem Unseparated.map_eq (clean : Unseparated text) :
    (text.map fun c => if c == '\n' then ';' else c) = text := by
  refine (List.map_congr_left fun c inside => ?_).trans (List.map_id text)
  exact if_neg fun same => clean c inside (.inr (eq_of_beq same))

theorem Unseparated.notMem (clean : Unseparated text) : ';' ∉ text :=
  fun inside => clean _ inside (.inl rfl)

theorem definitionParts_of_unseparated (clean : Unseparated text) :
    definitionParts text = [text] := by
  rw [definitionParts, clean.map_eq, Text.splitAt_of_notMem clean.notMem]

/-- The first part ends at the first separator. -/
theorem definitionParts_append (clean : Unseparated text) (separates : Separates separator)
    (rest : List Char) :
    definitionParts (text ++ separator :: rest) = text :: definitionParts rest := by
  have same : (if separator == '\n' then ';' else separator) = ';' := by
    rcases separates with rfl | rfl <;> rfl
  rw [definitionParts, List.map_append, clean.map_eq, List.map_cons, same,
    Text.splitAt_append clean.notMem, definitionParts]

/-- A blank part adds no field. -/
theorem addDefinition_of_gap (type : RecordType) (gap : Gap text) :
    addDefinition type text = .ok type := by
  rw [addDefinition, Text.words_blank gap.blank]

theorem WritesField.unseparated (own : WritesField field text) (named : IsFieldName field.1)
    (scalar : field.2.innermostRecord? = none) : Unseparated text := by
  obtain ⟨before, apart, -, after⟩ := own
  obtain ⟨name, plain, -⟩ := named.word
  obtain ⟨kind, clean⟩ := Schema.word_text scalar
  exact before.unseparated.append ((unseparated_of_word name plain).append
    (apart.unseparated.append ((unseparated_of_word kind clean).append after.unseparated)))

/-- A part that is a field has its name and its schema as words. -/
theorem WritesField.words_eq (own : WritesField field text) (named : IsFieldName field.1)
    (scalar : field.2.innermostRecord? = none) :
    Text.words text = [field.1.toList, field.2.text.toList] := by
  obtain @⟨front, between, behind, before, apart, some, after⟩ := own
  obtain ⟨name, -, -⟩ := named.word
  obtain ⟨kind, -⟩ := Schema.word_text scalar
  have last : ∀ c ∈ behind.head?, Text.isBlank c = true := fun c inside =>
    after.blank c (List.mem_of_mem_head? inside)
  rw [Text.words_blanks_append before.blank (name.head? _),
    Text.words_word_append name (apart.blank.head? some _),
    Text.words_blanks_append apart.blank (kind.head? _), Text.words_word_append kind last,
    Text.words_blank after.blank]

/-- A part that is a field adds this field. -/
theorem WritesField.addDefinition_eq (own : WritesField field text) (named : IsFieldName field.1)
    (scalar : field.2.innermostRecord? = none) (type : RecordType) :
    addDefinition type text = .ok (type.push field.1 field.2) := by
  rw [addDefinition, own.words_eq named scalar]
  dsimp only
  rw [if_pos named.word.2.2, Schema.ofDefinition?_text scalar, String.ofList_toList]

/-- The fields of a text are added in order. -/
theorem WritesFields.foldlM_addDefinition (written : WritesFields fields body)
    (names : ∀ field ∈ fields, IsFieldName field.1)
    (scalars : ∀ field ∈ fields, field.2.innermostRecord? = none) (type : RecordType) :
    (definitionParts body).foldlM addDefinition type =
      .ok { type with fields := type.fields ++ fields } := by
  induction written generalizing type with
  | blank gap =>
      rw [definitionParts_of_unseparated gap.unseparated, List.foldlM_cons,
        addDefinition_of_gap type gap, List.append_nil]
      rfl
  | last own =>
      have named := names _ List.mem_cons_self
      have scalar := scalars _ List.mem_cons_self
      rw [definitionParts_of_unseparated (own.unseparated named scalar), List.foldlM_cons,
        own.addDefinition_eq named scalar]
      rfl
  | skip gap separates others ih =>
      rw [definitionParts_append gap.unseparated separates, List.foldlM_cons,
        addDefinition_of_gap type gap]
      exact ih names scalars type
  | next own separates others ih =>
      obtain ⟨named, names⟩ := List.forall_mem_cons.1 names
      obtain ⟨scalar, scalars⟩ := List.forall_mem_cons.1 scalars
      rw [definitionParts_append (own.unseparated named scalar) separates, List.foldlM_cons,
        own.addDefinition_eq named scalar, Outcome.ok_bind, ih names scalars, push]
      simp only [List.append_assoc, List.singleton_append]

/-! ## Reading definitions -/

theorem Writes.first (written : type.Writes text) : ∃ more, text = 's' :: more := by
  obtain ⟨blank, fields⟩ := written
  exact ⟨_, rfl⟩

theorem Writes.last (written : type.Writes text) : text.getLast? = some '\x7d' := by
  obtain ⟨blank, fields⟩ := written
  rw [enclosed_eq, ← List.cons_append, ← List.append_assoc, ← List.append_assoc,
    List.getLast?_concat]

/-- Blanks around a definition are no part of it. -/
theorem Writes.trimChars_eq (written : type.Writes text) {front behind : List Char}
    (before : Text.Blank front) (after : Text.Blank behind) :
    Text.trimChars (front ++ (text ++ behind)) = text := by
  refine Text.trimChars_of_ends text before after ?_ ?_
  · obtain ⟨more, rfl⟩ := written.first
    rintro _ ⟨⟩
    decide
  · rw [written.last]
    rintro _ ⟨⟩
    decide

/-- The body of a definition is found between its braces. -/
theorem definitionBody?_enclosed {blanks : List Char} (blank : Text.Blank blanks)
    (trimmed : Text.trimChars text = enclosed blanks body) : definitionBody? text = some body := by
  have closed : ('\x7b' :: (body ++ ['\x7d'])).getLast? = some '\x7d' := by
    rw [← List.cons_append, List.getLast?_concat]
  have dropped : (blanks ++ '\x7b' :: (body ++ ['\x7d'])).dropWhile Text.isBlank =
      '\x7b' :: (body ++ ['\x7d']) :=
    Text.dropWhile_append_of_head? blank (by rintro _ ⟨⟩; decide)
  have keyword : "struct".toList.isPrefixOf
      ("struct".toList ++ (blanks ++ '\x7b' :: (body ++ ['\x7d']))) = true := by
    simp
  rw [definitionBody?, trimmed, enclosed_eq, keyword]
  simp only [List.drop_left, dropped, closed]
  exact congrArg some List.dropLast_concat

/-- A definition is read as the record type that it writes. -/
theorem Definable.ofDefinition_eq (definable : type.Definable) {definition front behind : List Char}
    (written : type.Writes definition) (before : Text.Blank front) (after : Text.Blank behind) :
    ofDefinition type.name (String.ofList (front ++ (definition ++ behind))) = .ok type := by
  have trimmed := written.trimChars_eq before after
  obtain ⟨blank, fields⟩ := written
  have filled : type.fields.isEmpty = false := by simpa using definable.nonempty
  have read := fields.foldlM_addDefinition definable.names definable.scalars ⟨type.name, []⟩
  rw [ofDefinition, String.toList_ofList, definitionBody?_enclosed blank trimmed]
  dsimp only
  rw [read]
  simp only [Outcome.ok_bind, List.nil_append, filled]
  rfl

/-! ## Registering definitions -/

/-- A registration with a definition gives the record type that this writes. -/
theorem Definable.type_eq (definable : type.Definable) {definition : List Char}
    (written : type.Writes definition) (everywhere : Bool) (args : List Value) :
    (Sql.Registration.mk type.name everywhere (String.ofList definition)).type args =
      .ok type := by
  have trimmed : Text.trimChars ([] ++ (definition ++ [])) = definition :=
    written.trimChars_eq nofun nofun
  have read : ofDefinition type.name (String.ofList ([] ++ (definition ++ []))) = .ok type :=
    definable.ofDefinition_eq written nofun nofun
  rw [List.nil_append, List.append_nil] at trimmed read
  have mark : (String.ofList definition == "?") = false := by
    refine beq_false_of_ne fun same => ?_
    obtain ⟨more, starts⟩ := written.first
    have chars := congrArg String.toList same
    rw [String.toList_ofList, starts] at chars
    cases chars
  rw [Sql.Registration.type]
  simp only [Text.trim, String.toList_ofList, trimmed, mark]
  exact read

/-- A record type is read back from its definition, whatever stands between its words: semicolons
or line ends between the fields and blanks anywhere. A registration with the definition, with or
without semicolons behind it, gives this record type to the name. -/
theorem Definable.read_back (definable : type.Definable) :
    type.Writes type.definition ∧
      ∀ front definition between behind : List Char, Text.Blank front → type.Writes definition →
        Text.Blank between → Text.Blank behind →
        ofDefinition type.name (String.ofList (front ++ (definition ++ behind))) = .ok type ∧
        ∀ (session : Session) (number : Nat) (own : Connection) (everywhere : Bool) (count : Nat)
          (args : List Value) (sql : String), Sql.Plain type.name →
          session.connections[number]? = some own →
          sql = Sql.Registration.render ⟨type.name, everywhere, String.ofList (front ++
            (definition ++ (between ++ (List.replicate count ';' ++ behind))))⟩ →
          ∃ prepared registered, Prepared.ofText sql = .ok prepared ∧
            (session.prepare number sql).2.execute number prepared args = .ok registered ∧
            (registered.typesOf number).lookup? type.name = some type ∧
            (everywhere = true → registered.shared.lookup? type.name = some type) := by
  refine ⟨definable.writes, fun front definition between behind before written inside after =>
    ⟨definable.ofDefinition_eq written before after, ?_⟩⟩
  rintro session number own everywhere count args _ plain there rfl
  -- What is registered is the definition alone: it starts with a letter and ends with a brace.
  obtain ⟨more, starts⟩ := written.first
  have last : ∀ c ∈ definition.getLast?, Text.isBlank c = false ∧ c ≠ ';' := by
    rw [written.last]
    rintro _ ⟨⟩
    decide
  have trimmed := Sql.trimDefinition_of_ends count before inside after
    ⟨'s', more, starts, by decide⟩ last
  have prepared := Prepared.ofText_render ⟨type.name, everywhere, String.ofList (front ++
    (definition ++ (between ++ (List.replicate count ';' ++ behind))))⟩ plain
    (starts ▸ List.cons_ne_nil 's' more) ((congrArg _ String.toList_ofList).trans trimmed)
  have typed : (Sql.Registration.mk type.name everywhere (String.ofList definition)).type args =
      .ok type := definable.type_eq written everywhere args
  obtain ⟨registered, executed, now_, shared⟩ :=
    Session.exists_execute (Session.connections_prepare there _) _ typed
  refine ⟨_, registered, prepared, executed, ?_, fun shares => ?_⟩
  · rw [Session.typesOf, now_]
    exact TypeRegistry.lookup?_register
  · rw [shared, if_pos shares]
    exact TypeRegistry.lookup?_register

/-- Books with a rating, if they have one, and tags. -/
def book : RecordType :=
  ⟨"Book", [("Title_2", .scalar .string), ("_rating", .optional (.scalar .float)),
    ("Tags", .array (.optional (.array (.scalar .time))))]⟩

theorem definable_book : book.Definable where
  nonempty := by decide
  names := by
    simp only [book, List.forall_mem_cons]
    refine ⟨⟨'T', "itle_2".toList, ?_⟩, ⟨'_', "rating".toList, ?_⟩, ⟨'T', "ags".toList, ?_⟩, nofun⟩
    all_goals simp
  scalars := by
    simp [book, Schema.innermostRecord?]

/-- Books are read back from a definition on one line, and are known where it is registered. -/
theorem read_back_book :
    book.definition = "struct\x7bTitle_2 string; _rating *float; Tags []*[]time\x7d".toList ∧
      ofDefinition "Book" "struct\x7bTitle_2 string; _rating *float; Tags []*[]time\x7d" =
        .ok book ∧
      ∃ prepared registered,
        Prepared.ofText ("REGISTER GLOBAL TYPE \x60Book\x60 AS " ++
          "struct\x7bTitle_2 string; _rating *float; Tags []*[]time\x7d;") = .ok prepared ∧
        (Session.two.prepare 1 ("REGISTER GLOBAL TYPE \x60Book\x60 AS " ++
          "struct\x7bTitle_2 string; _rating *float; Tags []*[]time\x7d;")).2.execute 1
            prepared [] = .ok registered ∧
        (registered.typesOf 1).lookup? "Book" = some book ∧
        registered.shared.lookup? "Book" = some book := by
  have text : book.definition =
      "struct\x7bTitle_2 string; _rating *float; Tags []*[]time\x7d".toList := by
    decide +kernel
  obtain ⟨written, reads⟩ := definable_book.read_back
  obtain ⟨read, registers⟩ := reads [] book.definition [] [] nofun written nofun nofun
  obtain ⟨prepared, registered, found, executed, known, shared⟩ :=
    registers Session.two 1 Session.bare true 1 [] ("REGISTER GLOBAL TYPE \x60Book\x60 AS " ++
      "struct\x7bTitle_2 string; _rating *float; Tags []*[]time\x7d;") (by decide +kernel) rfl
      (by decide +kernel)
  refine ⟨text, ?_, prepared, registered, found, executed, known, shared rfl⟩
  rw [text] at read
  exact read

end RecordType

end RecordQuery
