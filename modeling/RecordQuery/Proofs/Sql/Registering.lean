import RecordQuery.Proofs.Sql.Standing

/-!
# Where registrations go wrong

A registration is read word by word, and the first thing that does not fit ends it: characters that
are no token, or a token that the words in front of it refuse. The error shows it and gives a
position. That is where the thing starts, except for a token in the place of `TYPE`: there it is the
position behind the token.
-/

namespace RecordQuery.Sql

open Outcome

/-! ## Words that are taken -/

/-- A cursor takes some tokens, one after the other. -/
inductive Cursor.Takes : Cursor → List Token → Cursor → Prop where
  | nil (here : Cursor) : Takes here [] here
  | cons {here behind last : Cursor} {token : Token} {words : List Token}
      (first : here.next = .ok (token, behind)) (others : Takes behind words last) :
      Takes here (token :: words) last

namespace Cursor

variable {here behind last : Cursor} {token : Token}

theorem next_eq_ok (taken : here.next = .ok (token, behind)) :
    ∃ rest, scanToken here.skip.rest = .ok (token, rest) ∧ behind = here.skip.advance rest := by
  unfold next at taken
  dsimp only at taken
  split at taken <;> cases taken
  rename_i scanned
  exact ⟨_, scanned, rfl⟩

theorem In.next {text : List Char} {offset : Nat} (inside : here.In text offset)
    (taken : here.next = .ok (token, behind)) : behind.In text offset := by
  rcases next_eq_ok taken with ⟨rest, scanned, rfl⟩
  exact inside.skip.advance_scanToken scanned

namespace Takes

variable {words more : List Token}

theorem inside {text : List Char} {offset : Nat} (takes : here.Takes words last)
    (start : here.In text offset) : last.In text offset := by
  induction takes with
  | nil here => exact start
  | cons first others ih => exact ih (start.next first)

theorem concat (takes : here.Takes words last) (taken : last.next = .ok (token, behind)) :
    here.Takes (words ++ [token]) behind := by
  induction takes with
  | nil here => exact .cons taken (.nil _)
  | cons first others ih => exact .cons first (ih taken)

/-- From one cursor, some words lead to one cursor only, and a word behind them is the next one
there. -/
theorem next_of_prefix {middle : Cursor} (takes : here.Takes words middle)
    (further : here.Takes (words ++ token :: more) last) :
    ∃ behind, middle.next = .ok (token, behind) := by
  induction takes with
  | nil here =>
      cases further with
      | cons first others => exact ⟨_, first⟩
  | cons first others ih =>
      cases further with
      | cons again further =>
          cases first.symm.trans again
          exact ih further

theorem unique {other : Cursor} (takes : here.Takes words last) (again : here.Takes words other) :
    last = other := by
  induction takes with
  | nil here =>
      cases again
      rfl
  | cons first others ih =>
      cases again with
      | cons again more =>
          cases first.symm.trans again
          exact ih more

end Takes

end Cursor

/-- Behind some words of a text, and the blanks and comments after them, the text goes on with
`rest` from `position` on. -/
structure Reaches (text : String) (words : List Token) (position : Nat) (rest : List Char) :
    Prop where
  taken : ∃ here, (Cursor.start text 0).Takes words here ∧ here.skip = ⟨rest, position⟩
  split : ∃ passed, text.toList = passed ++ rest ∧ position = passed.length

theorem reaches_of_takes {text : String} {words : List Token} {here : Cursor}
    (takes : (Cursor.start text 0).Takes words here) :
    Reaches text words here.skip.position here.skip.rest := by
  rcases (takes.inside (.start text 0)).skip with ⟨passed, split, place⟩
  exact ⟨⟨here, takes, rfl⟩, passed, split, by rw [place, Nat.zero_add]⟩

/-- Some words of a text lead to one place in it only. -/
theorem Reaches.unique {text : String} {words : List Token} {position place : Nat}
    {rest more : List Char} (reaches : Reaches text words position rest)
    (again : Reaches text words place more) : place = position ∧ more = rest := by
  rcases reaches.taken with ⟨here, takes, skips⟩
  rcases again.taken with ⟨other, takes', skips'⟩
  cases takes.unique takes'
  cases skips.symm.trans skips'
  exact ⟨rfl, rfl⟩

/-- Where more words can be taken, the first of them is the next token. -/
theorem Reaches.next_of_prefix {text : String} {token other : Token} (words : List Token)
    {more : List Token} {position place : Nat} {rest behind behind' : List Char}
    (reaches : Reaches text words position rest)
    (scanned : scanToken rest = .ok (token, behind))
    (further : Reaches text (words ++ other :: more) place behind') : token = other := by
  rcases reaches.taken with ⟨here, takes, skips⟩
  rcases further.taken with ⟨last, takes', -⟩
  rcases takes.next_of_prefix takes' with ⟨onward, next⟩
  rcases Cursor.next_eq_ok next with ⟨_, again, -⟩
  rw [skips] at again
  cases scanned.symm.trans again
  rfl

/-! ## Faults of registrations -/

/-- The words that say for whom a type is registered. -/
def registerWords (everywhere : Bool) : List Token :=
  .keyword .register :: if everywhere then [.keyword .global_] else []

/-- The words of a registration up to some place leave no room for the token there. -/
inductive Refuses : List Token → SyntaxFault → Token → Prop where
  | type (everywhere : Bool) {token : Token} (other : token ≠ .keyword .type_)
      (narrow : everywhere = false → token ≠ .keyword .global_) :
      Refuses (registerWords everywhere) (.expectedToken (.keyword .type_)) token
  | name {everywhere : Bool} {token : Token} (other : ∀ name, token ≠ .identifier name) :
      Refuses (registerWords everywhere ++ [.keyword .type_]) .expectedTypeName token
  | as_ {everywhere : Bool} {name : String} {token : Token} (other : token ≠ .keyword .as_) :
      Refuses (registerWords everywhere ++ [.keyword .type_, .identifier name])
        (.expectedToken (.keyword .as_)) token

/-- A text is no registration for a token of its own, with the characters `taken`: the words up to
its position refuse it. -/
def Offends (text : String) (fault : SyntaxFault) (located : Located) (taken : List Char) : Prop :=
  ∃ words rest, Reaches text words located.position (taken ++ rest) ∧
    scanToken (taken ++ rest) = .ok (located.token, rest) ∧ Refuses words fault located.token

/-- A text is no registration for characters from `position` on that are no token. -/
def Unreadable (text : String) (fault : SyntaxFault) (position : Nat) : Prop :=
  ∃ words rest read, Reaches text words position rest ∧ scanToken rest = .error ⟨fault, read⟩

/-- A fault is shown with the position of what is shown: of the characters that are no token, or of
the token that is refused. -/
def ShownAtStart (text : String) (fault : SyntaxFault) (shown : String) (position : Nat) : Prop :=
  (Unreadable text fault position ∧ shown.toList <+: text.toList.drop position) ∨
    ∃ located taken, Offends text fault located taken ∧ shown = located.token.describe ∧
      position = located.position

/-- The errors of registrations. -/
inductive RegistrationError (text : String) : QueryError → Prop where
  | noDefinition (position : Nat) :
      RegistrationError text (.locatedAt .missingDefinition "" position)
  | unreadable {fault : SyntaxFault} {shown : String} {position : Nat}
      (unreadable : Unreadable text fault position)
      (quotes : shown.toList <+: text.toList.drop position) :
      RegistrationError text (.locatedAt fault shown position)
  | refused {fault : SyntaxFault} {located : Located} {taken : List Char}
      (offends : Offends text fault located taken)
      (other : fault ≠ .expectedToken (.keyword .type_)) :
      RegistrationError text (.locatedAt fault located.token.describe located.position)
  | notType {located : Located} {taken : List Char}
      (offends : Offends text (.expectedToken (.keyword .type_)) located taken) :
      RegistrationError text (.locatedAt (.expectedToken (.keyword .type_)) located.token.describe
        (located.position + taken.length))

variable {text shown : String} {fault : SyntaxFault} {located : Located} {taken : List Char}
  {position : Nat}

/-- The next word of a text is read, with its characters, or there are characters in its place that
are no token. -/
theorem yields_next {words : List Token} {here : Cursor}
    (takes : (Cursor.start text 0).Takes words here) :
    Yields (RegistrationError text)
      (fun (token, behind) => (Cursor.start text 0).Takes (words ++ [token]) behind ∧
        ∀ fault, Refuses words fault token → ∃ taken,
          Offends text fault ⟨token, here.skip.position⟩ taken ∧
            behind.position = here.skip.position + taken.length)
      here.next := by
  have reaches := reaches_of_takes takes
  cases next : here.next with
  | error error =>
      unfold Cursor.next at next
      dsimp only at next
      split at next <;> cases next
      rename_i fault scanned
      refine .unreadable ⟨words, _, _, reaches, scanned⟩ ?_
      rcases reaches.split with ⟨passed, split, place⟩
      rw [split, place, List.drop_left, Cursor.fragment, String.toList_ofList]
      exact List.take_prefix ..
  | ok found =>
      rcases found with ⟨token, behind⟩
      refine ⟨takes.concat next, fun fault refused => ?_⟩
      rcases Cursor.next_eq_ok next with ⟨rest, scanned, rfl⟩
      rcases exists_append_of_scanToken scanned with ⟨taken, split⟩
      refine ⟨taken, ⟨words, rest, split ▸ reaches, split ▸ scanned, refused⟩, ?_⟩
      rw [Cursor.advance, split, List.length_append, Nat.add_sub_cancel]

/-- Behind its first word, a registration is read or fails with one of its errors. -/
theorem yields_parseRegistration {start : Cursor}
    (register : (Cursor.start text 0).next = .ok (.keyword .register, start)) :
    Yields (RegistrationError text) (fun _ => True) (parseRegistration start) := by
  have begun : (Cursor.start text 0).Takes [.keyword .register] start := .cons register (.nil _)
  unfold parseRegistration
  refine (yields_next begun).bind fun ⟨first, afterFirst⟩ _ ⟨taken, own⟩ => ?_
  dsimp only at taken own ⊢
  -- The word in the place of `TYPE` is the first one, or the one behind `GLOBAL`.
  have typed : Yields (RegistrationError text)
      (fun (type, afterType) => ∃ everywhere,
        (Cursor.start text 0).Takes (registerWords everywhere ++ [type]) afterType ∧
        (type ≠ .keyword .type_ → ∃ located taken, located.token = type ∧
          Offends text (.expectedToken (.keyword .type_)) located taken ∧
            afterType.position = located.position + taken.length))
      (if first == .keyword .global_ then afterFirst.next else pure (first, afterFirst)) := by
    split
    · rename_i everywhere
      cases beq_iff_eq.1 everywhere
      refine (yields_next taken).mono (fun _ failed => failed) ?_
      rintro ⟨type, afterType⟩ - ⟨further, own⟩
      refine ⟨true, further, fun other => ?_⟩
      rcases own _ (.type true other nofun) with ⟨chars, offends, place⟩
      exact ⟨_, chars, rfl, offends, place⟩
    · rename_i narrow
      refine ⟨false, taken, fun other => ?_⟩
      rcases own _ (.type false other fun _ => by simpa using narrow) with
        ⟨chars, offends, place⟩
      exact ⟨_, chars, rfl, offends, place⟩
  rw [← ite_bind]
  refine typed.bind fun ⟨type, afterType⟩ _ ⟨everywhere, taken, own⟩ => ?_
  dsimp only at taken own ⊢
  by_cases isType : type = .keyword .type_
  case neg =>
    rcases own isType with ⟨located, chars, rfl, offends, place⟩
    rw [if_pos (by simpa using isType), place]
    exact RegistrationError.notType offends
  subst isType
  rw [if_neg (by simp)]
  refine (yields_next taken).bind fun ⟨nameToken, afterName⟩ _ ⟨taken, own⟩ => ?_
  dsimp only at taken own ⊢
  split
  case h_2 nameToken other =>
    rcases own _ (.name other) with ⟨chars, offends, -⟩
    exact RegistrationError.refused offends nofun
  rename_i name
  rw [List.append_assoc] at taken
  refine (yields_next taken).bind fun ⟨as_, afterAs⟩ _ ⟨taken, own⟩ => ?_
  dsimp only at taken own ⊢
  by_cases isAs : as_ = .keyword .as_
  case neg =>
    rcases own _ (.as_ isAs) with ⟨chars, offends, -⟩
    rw [if_pos (by simpa using isAs)]
    exact RegistrationError.refused offends nofun
  rw [if_neg (by simpa using isAs)]
  split
  · exact .noDefinition _
  · trivial

/-- Digits that give no token are a whole number that is too large. -/
theorem eq_invalidInteger_of_scanNumber {digits : List Char} {failure : ScanFault}
    (failed : scanNumber digits = .error failure) : failure.fault = .invalidInteger := by
  unfold scanNumber at failed
  dsimp only at failed
  split at failed
  · split at failed
    · cases failed
    · split at failed <;> cases failed
      rfl
  · split at failed <;> cases failed
    rfl

/-- Characters that are no token are not the fault of a token. -/
theorem ne_expectedToken_of_scanToken {rest : List Char} {read : Nat}
    (failed : scanToken rest = .error ⟨fault, read⟩) (wanted : Token) :
    fault ≠ .expectedToken wanted := by
  unfold scanToken at failed
  split at failed
  · cases failed
  split at failed
  · have number : fault = .invalidInteger := eq_invalidInteger_of_scanNumber failed
    rw [number]
    exact nofun
  split at failed
  · split at failed <;> cases failed
    exact nofun
  split at failed
  · split at failed <;> cases failed
    exact nofun
  split at failed
  · cases failed
  · split at failed <;> cases failed
    exact nofun

/-- In the place of `TYPE`, there is one token at most that is not this word. -/
theorem Offends.unique {other : Located} {chars : List Char}
    (offends : Offends text (.expectedToken (.keyword .type_)) located taken)
    (again : Offends text (.expectedToken (.keyword .type_)) other chars) :
    other.position = located.position ∧ chars = taken := by
  rcases located with ⟨token, position⟩
  rcases other with ⟨token', place⟩
  rcases offends with ⟨_, rest, reaches, scanned, @⟨everywhere, _, -, narrow⟩⟩
  rcases again with ⟨_, rest', reaches', scanned', @⟨everywhere', _, -, narrow'⟩⟩
  -- Where only one of them is behind `GLOBAL`, the other one is this word.
  have same : everywhere' = everywhere := by
    cases everywhere <;> cases everywhere'
    · rfl
    · exact absurd (reaches.next_of_prefix [.keyword .register] scanned reaches')
        (narrow rfl)
    · exact absurd (reaches'.next_of_prefix [.keyword .register] scanned' reaches)
        (narrow' rfl)
    · rfl
  subst same
  rcases reaches.unique reaches' with ⟨same, split⟩
  dsimp only at scanned'
  rw [split] at scanned'
  cases scanned.symm.trans scanned'
  exact ⟨same, List.append_cancel_right split⟩

/-- A token without characters is the end of the input. -/
theorem Offends.atEnd (offends : Offends text fault located []) :
    located.token = .endOfInput := by
  rcases located with ⟨token, position⟩
  rcases offends with ⟨words, rest, -, scanned, -⟩
  cases rest with
  | nil =>
      cases scanned
      rfl
  | cons c more => exact absurd (length_lt_of_scanToken scanned) (Nat.lt_irrefl _)

/-- The position behind a token in the place of `TYPE` is not that of anything that is shown. -/
theorem Offends.not_shownAtStart
    (offends : Offends text (.expectedToken (.keyword .type_)) located taken) (some : taken ≠ []) :
    ¬ ShownAtStart text (.expectedToken (.keyword .type_)) shown
      (located.position + taken.length) := by
  rintro (⟨⟨words, rest, read, -, failed⟩, -⟩ | ⟨other, chars, again, -, place⟩)
  · exact ne_expectedToken_of_scanToken failed _ rfl
  · have same := (offends.unique again).1
    exact some (List.length_eq_zero_iff.1 (by omega))

/-- The error of a registration gives the position of what it shows, unless a token stands in the
place of `TYPE`: then it gives the position behind this token. -/
theorem shownAtStart_iff {start : Cursor}
    (register : (Cursor.start text 0).next = .ok (.keyword .register, start))
    (failed : parseStatement text = .error (.locatedAt fault shown position))
    (visible : shown ≠ "") :
    (ShownAtStart text fault shown position ↔
      (fault = .expectedToken (.keyword .type_) →
        ∃ last, Offends text fault ⟨.endOfInput, last⟩ [])) ∧
    (fault = .expectedToken (.keyword .type_) → ∃ located taken,
      Offends text fault located taken ∧ shown = located.token.describe ∧
        position = located.position + taken.length) := by
  have cause : RegistrationError text (.locatedAt fault shown position) := by
    have whole : Yields (RegistrationError text) (fun _ => True)
        (parseRegistration start >>= fun own => pure (Statement.register own)) :=
      (yields_parseRegistration register).bind fun _ _ _ => trivial
    rw [parseStatement, register] at failed
    exact whole.of_error failed
  cases cause with
  | noDefinition position => exact absurd rfl visible
  | unreadable unreadable quotes =>
      have other : fault ≠ .expectedToken (.keyword .type_) := by
        rcases unreadable with ⟨words, rest, read, -, failed⟩
        exact ne_expectedToken_of_scanToken failed _
      exact ⟨iff_of_true (.inl ⟨unreadable, quotes⟩) (absurd · other), (absurd · other)⟩
  | refused offends other =>
      exact ⟨iff_of_true (.inr ⟨_, _, offends, rfl, rfl⟩) (absurd · other), (absurd · other)⟩
  | @notType located taken offends =>
      refine ⟨⟨fun shows _ => ?_, fun ended => ?_⟩, fun _ => ⟨located, taken, offends, rfl, rfl⟩⟩
      · by_cases empty : taken = []
        case neg => exact absurd shows (offends.not_shownAtStart empty)
        subst empty
        rcases located with ⟨token, place⟩
        cases offends.atEnd
        exact ⟨place, offends⟩
      · rcases ended rfl with ⟨last, again⟩
        cases (offends.unique again).2
        exact .inr ⟨located, [], offends, rfl, rfl⟩

/-- The name of a type cannot be a number, which is told at the position of the number. -/
theorem shownAtStart_number :
    parseStatement "REGISTER TYPE 1 AS ?" = .error (.locatedAt .expectedTypeName "1" 14) ∧
      ShownAtStart "REGISTER TYPE 1 AS ?" .expectedTypeName "1" 14 := by
  have first : (Cursor.start "REGISTER TYPE 1 AS ?" 0).next.toOption.map (·.1) =
      some (.keyword .register) := by decide +kernel
  rcases Option.map_eq_some_iff.1 first with ⟨⟨token, start⟩, found, rfl⟩
  have failed : parseStatement "REGISTER TYPE 1 AS ?" =
      .error (.locatedAt .expectedTypeName "1" 14) := eq_error_of_parse (by decide +kernel)
  exact ⟨failed, (shownAtStart_iff (toOption_eq_some.1 found) failed (by decide)).1.2 nofun⟩

/-- The word `Foo` in the place of `TYPE` starts at 9, and the error gives the position behind
it. -/
theorem not_shownAtStart_word :
    parseStatement "REGISTER Foo AS ?" =
        .error (.locatedAt (.expectedToken (.keyword .type_)) "Foo" 12) ∧
      ¬ ShownAtStart "REGISTER Foo AS ?" (.expectedToken (.keyword .type_)) "Foo" 12 := by
  have first : ((Cursor.start "REGISTER Foo AS ?" 0).next.toOption.map
      fun (token, behind) => (token, behind.skip.rest, behind.skip.position)) =
        some (.keyword .register, "Foo AS ?".toList, 9) := by decide +kernel
  rcases Option.map_eq_some_iff.1 first with ⟨⟨token, behind⟩, found, same⟩
  cases (Prod.mk.inj same).1
  have begun := reaches_of_takes (.cons (toOption_eq_some.1 found) (.nil behind))
  rw [(Prod.mk.inj (Prod.mk.inj same).2).1, (Prod.mk.inj (Prod.mk.inj same).2).2] at begun
  have offends : Offends "REGISTER Foo AS ?" (.expectedToken (.keyword .type_))
      ⟨.identifier "Foo", 9⟩ "Foo".toList :=
    ⟨registerWords false, " AS ?".toList, begun, toOption_eq_some.1 (by decide +kernel),
      .type false nofun fun _ => nofun⟩
  exact ⟨eq_error_of_parse (by decide +kernel), offends.not_shownAtStart (by decide)⟩

end RecordQuery.Sql
