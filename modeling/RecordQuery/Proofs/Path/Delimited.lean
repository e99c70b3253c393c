import RecordQuery.Proofs.Path.Blocks
import RecordQuery.Proofs.Sql.Respacing

/-!
# Conditions behind the names of steps

A condition in brackets behind the name of a step becomes the filter of the next point, with the
text between the brackets. That holds of a condition exactly where its text is enclosed, whatever
steps follow, for what is read behind a block does not depend on where it stands.
-/

namespace RecordQuery.Path

open Sql (Cursor)

variable {selector other name : String} {filter changed : Option Filter}

/-! ## Blanks -/

theorem rest_skipBlanks_congr {here moved : Cursor} (same : moved.rest = here.rest) :
    (skipBlanks moved).rest = (skipBlanks here).rest :=
  congrArg (List.dropWhile Text.isBlank) same

/-- A cursor stays where nothing is to be skipped. -/
theorem advance_dropWhile {p : Char → Bool} {c : Char} (kept : p c = false) (rest : List Char)
    (position : Nat) :
    (⟨c :: rest, position⟩ : Cursor).advance ((c :: rest).dropWhile p) =
      ⟨c :: rest, position⟩ := by
  rw [List.dropWhile_cons_of_neg (by simp [kept]), Cursor.advance, Nat.sub_self, Nat.add_zero]

theorem skipBlanks_cons {c : Char} (solid : Text.isBlank c = false) (rest : List Char)
    (position : Nat) : skipBlanks ⟨c :: rest, position⟩ = ⟨c :: rest, position⟩ :=
  advance_dropWhile solid rest position

theorem skipAccents_cons {c : Char} (plain : (c == '\x60') = false) (rest : List Char)
    (position : Nat) : skipAccents ⟨c :: rest, position⟩ = ⟨c :: rest, position⟩ :=
  @advance_dropWhile (· == '\x60') c plain rest position

/-! ## Filters -/

/-- The condition in a block becomes a filter. -/
theorem scanFilter_block {inner after : List Char} {text : String} {position : Nat}
    {expr : Sql.Expr} (block : readBlock 0 none inner = some (text.toList, after))
    (parsed : Sql.parseCriteria text (position + 1) = .ok expr) :
    ∃ within, scanFilter selector name ⟨'[' :: inner, position⟩ =
      .ok (some ⟨text, expr, name⟩,
        ⟨(⟨'[' :: inner, position⟩ : Cursor).advance after, within⟩) := by
  simp only [scanFilter]
  split
  · rename_i missing
    cases missing.symm.trans block
  · rename_i found
    cases found.symm.trans block
    rw [String.ofList_toList, parsed]
    exact ⟨Nat.le_of_lt (Nat.lt_succ_of_lt (length_lt_of_readBlock block)), rfl⟩

/-- Behind a name that no bracket follows, there is no filter. -/
theorem scanFilter_none {c : Char} (plain : c ≠ '[') (rest : List Char) (position : Nat) :
    scanFilter selector name ⟨c :: rest, position⟩ =
      .ok (none, ⟨⟨c :: rest, position⟩, Nat.le_refl _⟩) := by
  simp [scanFilter, plain]

theorem scanFilter_shift {here moved : Cursor} (same : moved.rest = here.rest)
    {after : { after : Cursor // after.rest.length ≤ here.rest.length }}
    (found : scanFilter selector name here = .ok (filter, after)) :
    ∃ last, scanFilter other name moved = .ok (filter, last) ∧ last.1.rest = after.1.rest := by
  rcases here with ⟨rest, position⟩
  rcases moved with ⟨front, place⟩
  cases same
  rcases rest with _ | ⟨c, inner⟩
  · cases found
    exact ⟨_, rfl, rfl⟩
  · by_cases bracket : c = '['
    · subst bracket
      simp only [scanFilter] at found
      split at found
      · cases found
      · rename_i text behind block
        rcases Outcome.bind_eq_ok.1 found with ⟨expr, parsed, same⟩
        cases same
        rw [← @String.toList_ofList text] at block
        rcases scanFilter_block block (Sql.parseCriteria_shift parsed) with ⟨within, scanned⟩
        exact ⟨_, scanned, rfl⟩
    · rw [scanFilter_none bracket] at found
      cases found
      exact ⟨_, scanFilter_none bracket inner place, rfl⟩

/-! ## Steps -/

/-- The path with another filter at its first point. -/
def withFilter (filter : Option Filter) : Path → Path
  | .leaf _ => .leaf filter
  | .step _ name next => .step filter name next

/-- What is read behind the name and the block of a step. -/
def scanOnward (selector name : String) (filter next : Option Filter) (after : Cursor) :
    QueryResult (Path × Cursor) :=
  match after.rest with
  | '/' :: rest =>
      if (rest.dropWhile Text.isBlank).head? == some '/' then
        throw (faultAt selector .expectedStepName (skipBlanks (after.advance rest)))
      else do
        let (path, last) ← scanSteps selector next (after.advance rest)
        return (.step filter name path, last)
  | [] => return (.step filter name (.leaf next), after)
  | '\x60' :: _ => return (.step filter name (.leaf next), after)
  | _ => throw (faultAt selector .unexpectedInput after)

theorem scanOnward_slash {after : Cursor} {rest : List Char} (line : after.rest = '/' :: rest) :
    scanOnward selector name filter changed after =
      if (rest.dropWhile Text.isBlank).head? == some '/' then
        .error (faultAt selector .expectedStepName (skipBlanks (after.advance rest)))
      else do
        let (path, last) ← scanSteps selector changed (after.advance rest)
        return (.step filter name path, last) := by
  simp only [scanOnward, line]
  rfl

theorem scanOnward_end {after : Cursor} (done : after.rest.head?.all (· == '\x60') = true) :
    scanOnward selector name filter changed after =
      .ok (.step filter name (.leaf changed), after) := by
  rw [scanOnward]
  split
  · rename_i line
    rw [line] at done
    cases done
  · rfl
  · rfl
  · rename_i none accent
    cases line : after.rest with
    | nil => exact absurd line none
    | cons c rest =>
        rw [line] at done
        cases beq_iff_eq.1 (done : (c == '\x60') = true)
        exact absurd line (accent rest)

/-- A name is read with the filter behind it. -/
theorem scanSteps_step {start here behind : Cursor} {first : Char} {tail : List Char}
    (front : skipBlanks start = here) (line : here.rest = first :: tail)
    (word : Text.isWordChar first = true)
    (spelled : String.ofList (here.rest.takeWhile Text.isWordChar) = name)
    (onward : skipBlanks (here.advance (here.rest.dropWhile Text.isWordChar)) = behind) :
    scanSteps selector filter start = (do
      let (next, after) ← scanFilter selector name behind
      scanOnward selector name filter next (skipBlanks after.1)) := by
  subst front spelled onward
  rw [scanSteps.eq_def]
  dsimp only
  split
  · rename_i none
    cases none.symm.trans line
  · rename_i accent
    cases accent.symm.trans line
    cases word
  · rename_i first' tail' _ line'
    cases line'.symm.trans line
    rw [dif_pos word]
    congr 1
    funext found
    rw [scanOnward]
    split
    · rename_i slash
      simp only [slash]
      rfl
    all_goals
      rename_i after
      simp only [after]

theorem scanSteps_end {start : Cursor}
    (done : (skipBlanks start).rest.head?.all (· == '\x60') = true) :
    scanSteps selector filter start = .ok (.leaf filter, skipBlanks start) := by
  rw [scanSteps.eq_def]
  dsimp only
  split
  · rfl
  · rfl
  · rename_i first tail other line
    rw [line] at done
    exact absurd (by simpa using done) other

/-- The filter in front of the steps becomes the one at the first point. -/
theorem filter_of_scanSteps {start last : Cursor} {path : Path}
    (found : scanSteps selector filter start = .ok (path, last)) : path.filter = filter := by
  rw [scanSteps.eq_def] at found
  dsimp only at found
  split at found
  · cases found
    rfl
  · cases found
    rfl
  · split at found
    · rcases Outcome.bind_eq_ok.1 found with ⟨⟨next, filtered, within⟩, -, found⟩
      dsimp only at found
      split at found
      · split at found
        · cases found
        · rcases Outcome.bind_eq_ok.1 found with ⟨⟨further, final⟩, -, same⟩
          cases same
          rfl
      · cases found
        rfl
      · cases found
        rfl
      · cases found
    · cases found

theorem withFilter_self {path : Path} (own : path.filter = filter) :
    path.withFilter filter = path := by
  subst own
  cases path <;> rfl

/-- The steps of a path are the same wherever they are read, and whatever filter stands before
them. -/
theorem scanSteps_shift {start moved last : Cursor} {path : Path}
    (same : moved.rest = start.rest)
    (found : scanSteps selector filter start = .ok (path, last)) :
    ∃ final, scanSteps other changed moved = .ok (path.withFilter changed, final) ∧
      final.rest = last.rest := by
  have front := rest_skipBlanks_congr same
  fun_induction scanSteps selector filter start generalizing path last moved changed with
  | case1 =>
      rename_i none
      cases found
      exact ⟨_, scanSteps_end (by rw [front]; exact none ▸ rfl), front⟩
  | case2 =>
      rename_i accent
      cases found
      exact ⟨_, scanSteps_end (by rw [front]; exact accent ▸ rfl), front⟩
  | case3 filter start here c tail _ line word =>
      rename_i ih
      rcases Outcome.bind_eq_ok.1 found with ⟨⟨next, filtered, within⟩, scanned, found⟩
      have spelled := congrArg (fun rest => String.ofList (rest.takeWhile Text.isWordChar)) front
      have place : (skipBlanks ((skipBlanks moved).advance
          ((skipBlanks moved).rest.dropWhile Text.isWordChar))).rest =
          (skipBlanks (here.advance (here.rest.dropWhile Text.isWordChar))).rest :=
        rest_skipBlanks_congr (congrArg (List.dropWhile Text.isWordChar) front)
      rcases scanFilter_shift place scanned with ⟨after, rescanned, onward⟩
      have behind := rest_skipBlanks_congr onward
      rw [scanSteps_step rfl (front.trans line) word spelled rfl, rescanned, Outcome.ok_bind]
      dsimp only at found behind ⊢
      split at found
      · rename_i rest slash
        rw [scanOnward_slash (behind.trans slash)]
        split at found
        · cases found
        · rename_i named
          rcases Outcome.bind_eq_ok.1 found with ⟨⟨further, final⟩, read, same⟩
          cases same
          have plain : ¬((rest.dropWhile Text.isBlank).head? == some '/') = true := named
          have moved' : ((skipBlanks after.1).advance rest).rest =
              ((skipBlanks filtered).advance rest).rest := rfl
          rcases ih next filtered within rest slash moved' read rfl with ⟨final, reread, same⟩
          rw [withFilter_self (filter_of_scanSteps read)] at reread
          rw [if_neg plain, reread]
          exact ⟨final, rfl, same⟩
      · rename_i done
        cases found
        exact ⟨_, scanOnward_end (by rw [behind]; exact done ▸ rfl), behind⟩
      · rename_i line
        cases found
        exact ⟨_, scanOnward_end (by rw [behind]; exact line ▸ rfl), behind⟩
      · cases found
  | case4 => cases found

/-! ## Whole paths -/

/-- The reader of paths ends behind the last step, apart from blanks and grave accents. -/
def scanEnd (selector : String) : Path × Cursor → QueryResult Path
  | (path, last) =>
      let last := skipBlanks (skipAccents last)
      if last.rest.isEmpty then .ok path else .error (faultAt selector .unexpectedInput last)

/-- What is left at the end counts, and not where it stands. -/
theorem scanEnd_shift {path whole : Path} {last moved : Cursor} (same : moved.rest = last.rest)
    (found : scanEnd selector (path, last) = .ok whole) :
    whole = path ∧ ∀ other changed, scanEnd other (changed, moved) = .ok changed := by
  have accents : (skipAccents moved).rest = (skipAccents last).rest :=
    congrArg (List.dropWhile (· == '\x60')) same
  rw [scanEnd] at found
  split at found
  · rename_i done
    cases found
    refine ⟨rfl, fun other changed => ?_⟩
    rw [scanEnd, rest_skipBlanks_congr accents, if_pos done]
  · cases found

/-- What follows a step is read with the filter behind its name. -/
theorem step_of_scanOnward {next : Option Filter} {after last : Cursor} {path : Path}
    (found : scanOnward selector name filter next after = .ok (path, last)) :
    ∃ further, path = .step filter name further ∧ further.filter = next := by
  rw [scanOnward] at found
  split at found
  · split at found
    · cases found
    · rcases Outcome.bind_eq_ok.1 found with ⟨⟨further, final⟩, read, same⟩
      cases same
      exact ⟨further, rfl, filter_of_scanSteps read⟩
  · cases found
    exact ⟨_, rfl, rfl⟩
  · cases found
    exact ⟨_, rfl, rfl⟩
  · cases found

/-- A path that starts with a name. -/
theorem scan_word {word rest : List Char} {c : Char} {offset : Nat}
    (line : selector.toList = word ++ c :: rest) (nonempty : word ≠ [])
    (letters : ∀ d ∈ word, Text.isWordChar d = true) (ends : Text.isWordChar c = false)
    (solid : Text.isBlank c = false) :
    scan selector offset = (do
      let (next, after) ← scanFilter selector (String.ofList word) ⟨c :: rest, offset + word.length⟩
      let found ← scanOnward selector (String.ofList word) none next (skipBlanks after.1)
      scanEnd selector found) := by
  rcases List.exists_cons_of_ne_nil nonempty with ⟨first, tail, rfl⟩
  have letter : Text.isWordChar first = true := letters first List.mem_cons_self
  have solidFirst : Text.isBlank first = false := by
    refine Bool.eq_false_iff.2 fun blank => ?_
    cases letter.symm.trans (Text.isWordChar_eq_false_of_isBlank blank)
  have noAccent : (first == '\x60') = false := by
    refine Bool.eq_false_iff.2 fun accent => ?_
    cases beq_iff_eq.1 accent
    cases letter
  have noSlash (more : List Char) : first :: (tail ++ c :: rest) ≠ '/' :: more := by
    rintro same
    cases same
    cases letter
  have here : skipBlanks (skipAccents (skipBlanks (Cursor.start selector offset))) =
      ⟨first :: (tail ++ c :: rest), offset⟩ := by
    rw [Cursor.start, line, List.cons_append, skipBlanks_cons solidFirst,
      skipAccents_cons noAccent, skipBlanks_cons solidFirst]
  have name : (first :: (tail ++ c :: rest)).takeWhile Text.isWordChar = first :: tail := by
    rw [← List.cons_append, List.takeWhile_append_of_pos letters,
      List.takeWhile_cons_of_neg (by simp [ends]), List.append_nil]
  have behind : (first :: (tail ++ c :: rest)).dropWhile Text.isWordChar = c :: rest := by
    rw [← List.cons_append, List.dropWhile_append_of_pos letters,
      List.dropWhile_cons_of_neg (by simp [ends])]
  have onward : skipBlanks ((⟨first :: (tail ++ c :: rest), offset⟩ : Cursor).advance
      ((first :: (tail ++ c :: rest)).dropWhile Text.isWordChar)) =
      ⟨c :: rest, offset + (first :: tail).length⟩ := by
    rw [behind, Cursor.advance, skipBlanks_cons solid]
    simp only [List.length_cons, List.length_append]
    congr 1
    omega
  rw [scan, here]
  dsimp only
  split
  · rename_i same
    exact absurd same (noSlash _)
  · rw [scanSteps_step (skipBlanks_cons solidFirst (tail ++ c :: rest) offset) rfl letter
      (congrArg String.ofList name) onward]
    rw [bind_assoc]
    rfl

/-! ## Conditions in brackets -/

/-- Whether a text can name a step. -/
def IsStepName (name : String) : Prop := name ≠ "" ∧ name.toList.all Text.isWordChar = true

/-- Brackets delimit a condition: behind any name it becomes the filter of the next point, at the
end of a path and in front of any further steps. -/
def Delimited (text : String) (expr : Sql.Expr) : Prop :=
  ∀ (name : String) (offset : Nat), IsStepName name →
    let filter : Filter := ⟨text, expr, name⟩
    scan (name ++ "[" ++ text ++ "]") offset = .ok (.step none name (.leaf (some filter))) ∧
      ∀ more path, scan (name ++ "/" ++ more) offset = .ok path →
        ∃ next, path = .step none name next ∧
          scan (name ++ "[" ++ text ++ "]/" ++ more) offset =
            .ok (.step none name (next.withFilter (some filter)))

section

variable {text : String} {expr : Sql.Expr} {offset place : Nat}

theorem IsStepName.word (named : IsStepName name) :
    name.toList ≠ [] ∧ ∀ c ∈ name.toList, Text.isWordChar c = true :=
  ⟨fun empty => named.1 (String.toList_eq_nil_iff.1 empty), List.all_eq_true.1 named.2⟩

/-- Behind a block that holds an enclosed condition, the path goes on with the condition as the
filter of the next point. -/
theorem scan_block {tail : List Char} (named : IsStepName name)
    (line : selector.toList = name.toList ++ '[' :: (text.toList ++ ']' :: tail))
    (parsed : Sql.parseCriteria text place = .ok expr) (enclosed : Enclosed text.toList) :
    ∃ position, scan selector offset =
      scanOnward selector name none (some ⟨text, expr, name⟩) (skipBlanks ⟨tail, position⟩) >>=
        scanEnd selector := by
  rw [scan_word line named.word.1 named.word.2 (by decide) (by decide), String.ofList_toList]
  have block : readBlock 0 none (text.toList ++ ']' :: tail) = some (text.toList, tail) :=
    readBlock_eq_some_iff.2 enclosed
  rcases scanFilter_block block (Sql.parseCriteria_shift parsed) with ⟨within, scanned⟩
  rw [scanned]
  exact ⟨_, rfl⟩

theorem delimited_of_enclosed (parsed : Sql.parseCriteria text place = .ok expr)
    (enclosed : Enclosed text.toList) : Delimited text expr := by
  intro name offset named filter
  refine ⟨?_, fun more path found => ?_⟩
  · have line : (name ++ "[" ++ text ++ "]").toList =
        name.toList ++ '[' :: (text.toList ++ ']' :: []) := by
      simp
    rcases scan_block named line parsed enclosed with ⟨position, same⟩
    rw [same, scanOnward_end rfl]
    rfl
  · have line : (name ++ "/" ++ more).toList = name.toList ++ '/' :: more.toList := by simp
    rw [scan_word line named.word.1 named.word.2 (by decide) (by decide), String.ofList_toList,
      scanFilter_none (by decide), Outcome.ok_bind] at found
    dsimp only at found
    rw [skipBlanks_cons (by decide), scanOnward_slash rfl] at found
    rcases Outcome.bind_eq_ok.1 found with ⟨⟨whole, last⟩, read, ended⟩
    split at read
    · cases read
    · rename_i plain
      rcases Outcome.bind_eq_ok.1 read with ⟨⟨next, final⟩, steps, same⟩
      cases same
      have line : (name ++ "[" ++ text ++ "]/" ++ more).toList =
          name.toList ++ '[' :: (text.toList ++ ']' :: '/' :: more.toList) := by
        simp
      rcases scan_block named line parsed enclosed with ⟨position, same⟩
      have moved : ((⟨'/' :: more.toList, position⟩ : Cursor).advance more.toList).rest =
          ((⟨'/' :: more.toList, offset + name.toList.length⟩ : Cursor).advance more.toList).rest :=
        rfl
      rcases scanSteps_shift moved steps with ⟨last, resumed, onward⟩
      rcases scanEnd_shift onward ended with ⟨rfl, ending⟩
      refine ⟨next, rfl, ?_⟩
      rw [same, skipBlanks_cons (by decide), scanOnward_slash rfl, if_neg plain, resumed]
      exact ending _ _

theorem enclosed_of_delimited (delimited : Delimited text expr) : Enclosed text.toList := by
  have named : IsStepName "X" := ⟨by decide, by decide⟩
  have found := (delimited "X" 0 named).1
  have line : ("X" ++ "[" ++ text ++ "]").toList =
      "X".toList ++ '[' :: (text.toList ++ ']' :: []) := by
    simp
  rw [scan_word line named.word.1 named.word.2 (by decide) (by decide)] at found
  rcases Outcome.bind_eq_ok.1 found with ⟨⟨next, after⟩, scanned, found⟩
  rcases Outcome.bind_eq_ok.1 found with ⟨⟨whole, last⟩, onward, ended⟩
  rcases step_of_scanOnward onward with ⟨further, rfl, own⟩
  rcases scanEnd_shift rfl ended with ⟨same, -⟩
  cases same
  subst own
  simp only [scanFilter] at scanned
  split at scanned
  · cases scanned
  · rename_i inner behind block
    rcases Outcome.bind_eq_ok.1 scanned with ⟨read, -, same⟩
    have spelled : String.ofList inner = text := by
      cases same
      rfl
    subst spelled
    rw [String.toList_ofList] at block ⊢
    exact @across_of_readBlock .outermost inner [] behind block

/-- Brackets delimit a condition exactly where its text is enclosed. They do so as long as no quote,
bracket or backslash stands in a comment or in a name between grave accents: string literals may
hold any of them. -/
theorem delimited_condition_iff (parsed : Sql.parseCriteria text place = .ok expr) :
    (Delimited text expr ↔ Enclosed text.toList) ∧
      ((∀ c ∈ hidden text.toList, isMark c = false) → Delimited text expr) :=
  ⟨⟨enclosed_of_delimited, delimited_of_enclosed parsed⟩, fun unmarked =>
    delimited_of_enclosed parsed (enclosed_of_parseCriteria parsed unmarked)⟩

/-- The literal of `Title = 'it''s [one' /* or two */` has a quote and a bracket. -/
theorem delimited_condition_quoted :
    ∃ expr, Sql.parseCriteria "Title = 'it''s [one' /* or two */" 0 = .ok expr ∧
      Delimited "Title = 'it''s [one' /* or two */" expr := by
  have accepted : (Sql.parseCriteria "Title = 'it''s [one' /* or two */" 0).isOk = true := by
    decide +kernel
  have plain : (hidden "Title = 'it''s [one' /* or two */".toList).all (!isMark ·) = true := by
    decide +kernel
  rcases Outcome.exists_of_isOk accepted with ⟨expr, parsed⟩
  refine ⟨expr, parsed, (delimited_condition_iff parsed).2 fun c inside => ?_⟩
  simpa using List.all_eq_true.1 plain c inside

/-- The quote in the comment of `A = 1 /* ' */` is taken for one that opens a literal, so the block
around the condition never ends. -/
theorem undelimited_comment :
    ∃ expr, Sql.parseCriteria "A = 1 /* ' */" 0 = .ok expr ∧
      (scan "X[A = 1 /* ' */]" 0).toOption = none ∧ ¬ Delimited "A = 1 /* ' */" expr := by
  have accepted : (Sql.parseCriteria "A = 1 /* ' */" 0).isOk = true := by decide +kernel
  have refused : (scan "X[A = 1 /* ' */]" 0).toOption.isNone = true := by decide +kernel
  have refused := Option.isNone_iff_eq_none.1 refused
  rcases Outcome.exists_of_isOk accepted with ⟨expr, parsed⟩
  refine ⟨expr, parsed, refused, fun delimited => ?_⟩
  have found := (delimited "X" 0 ⟨by decide, by decide⟩).1
  rw [← Outcome.toOption_eq_some] at found
  cases refused.symm.trans found

end

end RecordQuery.Path
