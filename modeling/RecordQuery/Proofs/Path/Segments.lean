import RecordQuery.Proofs.Path.Faults
import RecordQuery.Proofs.Text.Blanks

/-!
# Segments of selectors

A selector is a list of segments with slashes between them: names, each with or without a condition
in brackets. The scan turns the segments into the steps of a path one by one, and the condition of a
segment into the filter of the point behind its name. Written out again, a path is a selector of the
same segments, and the scan gives the path back.
-/

namespace RecordQuery.Path

open Sql (Cursor)
open Text (Blank isBlank isWordChar)

/-! ## How selectors are written -/

/-- A name in a selector, with the text in the brackets behind it where there are any. -/
structure Segment where
  name : String
  condition : Option String

/-- The brackets around a condition. -/
def brackets (condition : Option String) : List Char :=
  condition.elim [] fun text => '[' :: (text.toList ++ [']'])

/-- The name can be read, and the brackets delimit the condition. -/
structure Segment.Sound (segment : Segment) : Prop where
  named : IsStepName segment.name
  enclosed : ∀ text ∈ segment.condition, Enclosed text.toList

/-- A segment is its name and the brackets behind it, with blanks around both. -/
def Segment.Spells (segment : Segment) (text : List Char) : Prop :=
  ∃ before between after, Blank before ∧ Blank between ∧ Blank after ∧
    text = before ++ (segment.name.toList ++ (between ++ (brackets segment.condition ++ after)))

/-- Segments have slashes between them. One more slash may stand behind the last segment. -/
inductive Spelled : List Segment → List Char → Prop where
  | none {text : List Char} (blank : Blank text) : Spelled [] text
  | last {segment : Segment} {text : List Char} (sound : segment.Sound)
      (own : segment.Spells text) : Spelled [segment] text
  | more {segment : Segment} {rest : List Segment} {text behind : List Char}
      (sound : segment.Sound) (own : segment.Spells text) (others : Spelled rest behind) :
      Spelled (segment :: rest) (text ++ '/' :: behind)

/-- A text of nothing but grave accents. -/
def Accents (text : List Char) : Prop := ∀ c ∈ text, (c == '\x60') = true

/-- A selector is a list of segments, with or without a slash in front. Blanks and grave accents may
surround it. -/
def Selector (segments : List Segment) (text : List Char) : Prop :=
  ∃ before opening between slash steps closing after,
    Blank before ∧ Accents opening ∧ Blank between ∧ (slash = [] ∨ slash = ['/']) ∧
    Spelled segments steps ∧ Accents closing ∧ Blank after ∧
    text = before ++ (opening ++ (between ++ (slash ++ (steps ++ (closing ++ after)))))

/-! ## The path of a list of segments -/

/-- The filters at the points of a path, that of the leaves last. -/
def points : Path → List (Option Filter)
  | .leaf filter => [filter]
  | .step filter _ next => filter :: next.points

/-- The filter behind the name of a segment: what is read from the condition, held by the name. -/
inductive Segment.Leaves : Segment → Option Filter → Prop where
  | nothing (name : String) : Leaves ⟨name, none⟩ none
  | filter {name text : String} {expr : Sql.Expr} (parsed : Sql.parseCriteria text 0 = .ok expr) :
      Leaves ⟨name, some text⟩ (some ⟨text, expr, name⟩)

/-- A path has one step for each segment, in order, and behind each of them the filter of the
segment. The filter at the first point is given. -/
structure Follows (filter : Option Filter) (segments : List Segment) (path : Path) : Prop where
  names : path.names = segments.map Segment.name
  filters : ∃ behind, path.points = filter :: behind ∧ List.Forall₂ Segment.Leaves segments behind

namespace Follows

variable {filter next : Option Filter} {segment : Segment} {segments : List Segment} {path : Path}

theorem leaf (filter : Option Filter) : Follows filter [] (.leaf filter) := ⟨rfl, [], rfl, .nil⟩

theorem step (own : segment.Leaves next) (rest : Follows next segments path) :
    Follows filter (segment :: segments) (.step filter segment.name path) := by
  rcases rest with ⟨names, behind, points, leaves⟩
  exact ⟨congrArg (segment.name :: ·) names, next :: behind, congrArg (filter :: ·) points,
    .cons own leaves⟩

theorem filter_eq (follows : Follows filter segments path) : path.filter = filter := by
  rcases follows.filters with ⟨behind, points, -⟩
  cases path <;> exact (List.cons.inj points).1

theorem eq_leaf (follows : Follows filter [] path) : path = .leaf filter := by
  rcases follows with ⟨names, behind, points, -⟩
  cases path with
  | leaf own =>
      cases points
      rfl
  | step own name next => cases names

theorem eq_step (follows : Follows filter (segment :: segments) path) :
    ∃ next further, path = .step filter segment.name further ∧ segment.Leaves next ∧
      Follows next segments further := by
  rcases follows with ⟨names, behind, points, leaves⟩
  cases path with
  | leaf own => cases names
  | step own name further =>
      rw [Path.points, List.cons.injEq] at points
      rw [Path.names, List.map_cons, List.cons.injEq] at names
      rcases points with ⟨rfl, points⟩
      rcases names with ⟨rfl, names⟩
      cases leaves with
      | cons leaf leaves => exact ⟨_, further, rfl, leaf, names, _, points, leaves⟩

end Follows

/-! ## Reading the segments of a path -/

variable {selector name : String} {filter next : Option Filter} {segment : Segment}
  {segments : List Segment} {path : Path} {text rest : List Char}

theorem exists_blank (text : List Char) :
    ∃ blanks, Blank blanks ∧ text = blanks ++ text.dropWhile isBlank :=
  ⟨text.takeWhile isBlank, fun _ inside => List.mem_takeWhile_imp inside,
    List.takeWhile_append_dropWhile.symm⟩

/-- What is read in brackets is the filter of a segment. -/
theorem leaves_of_scanFilter {here : Cursor}
    {after : { after : Cursor // after.rest.length ≤ here.rest.length }}
    (found : scanFilter selector name here = .ok (next, after)) :
    ∃ condition, Segment.Leaves ⟨name, condition⟩ next ∧
      (∀ text ∈ condition, Enclosed text.toList) ∧
      here.rest = brackets condition ++ after.1.rest := by
  rcases here with ⟨_ | ⟨c, inner⟩, position⟩
  · cases found
    exact ⟨none, .nothing name, nofun, rfl⟩
  · by_cases bracket : c = '['
    · subst bracket
      simp only [scanFilter] at found
      split at found
      · cases found
      · rename_i text behind block
        rcases Outcome.bind_eq_ok.1 found with ⟨expr, parsed, same⟩
        cases same
        have split := append_of_readBlock block
        refine ⟨some (String.ofList text), .filter (Sql.parseCriteria_shift parsed), ?_, ?_⟩
        · rintro _ ⟨⟩
          rw [String.toList_ofList]
          exact readBlock_eq_some_iff.1 (split ▸ block)
        · simp [brackets, Cursor.advance, split]
    · rw [scanFilter_none bracket] at found
      cases found
      exact ⟨none, .nothing name, nofun, rfl⟩

/-- The characters of a name can be read as one. -/
theorem isStepName_takeWhile {first : Char} (word : isWordChar first = true) (tail : List Char) :
    IsStepName (String.ofList ((first :: tail).takeWhile isWordChar)) := by
  constructor
  · rw [List.takeWhile_cons_of_pos word]
    intro empty
    have := congrArg String.toList empty
    simp at this
  · rw [String.toList_ofList]
    exact List.all_takeWhile

/-- A name and what is read in brackets behind it are a segment. -/
theorem exists_segment {start : Cursor} {first : Char} {tail : List Char}
    (line : (skipBlanks start).rest = first :: tail) (word : isWordChar first = true)
    (spelled : String.ofList ((skipBlanks start).rest.takeWhile isWordChar) = name)
    {after : Cursor} {within : after.rest.length ≤ _}
    (found : scanFilter selector name
      (skipBlanks ((skipBlanks start).advance ((skipBlanks start).rest.dropWhile isWordChar))) =
        .ok (next, ⟨after, within⟩)) :
    ∃ (condition : Option String) (text : List Char),
      Segment.Sound ⟨name, condition⟩ ∧ Segment.Spells ⟨name, condition⟩ text ∧
      Segment.Leaves ⟨name, condition⟩ next ∧ start.rest = text ++ (skipBlanks after).rest := by
  rcases leaves_of_scanFilter found with ⟨condition, leaves, enclosed, bracketed⟩
  rcases exists_blank start.rest with ⟨before, blankBefore, split⟩
  rcases exists_blank ((skipBlanks start).rest.dropWhile isWordChar)
    with ⟨between, blankBetween, onward⟩
  rcases exists_blank after.rest with ⟨last, blankLast, ended⟩
  have named : IsStepName name := by
    rw [← spelled, line]
    exact isStepName_takeWhile word tail
  refine ⟨condition, _, ⟨named, enclosed⟩,
    ⟨before, between, last, blankBefore, blankBetween, blankLast, rfl⟩, leaves, ?_⟩
  calc start.rest
    _ = before ++ (skipBlanks start).rest := split
    _ = before ++ (name.toList ++ (skipBlanks start).rest.dropWhile isWordChar) := by
        rw [← spelled, String.toList_ofList, List.takeWhile_append_dropWhile]
    _ = before ++ (name.toList ++ (between ++ (brackets condition ++ after.rest))) := by
        rw [← bracketed]
        exact congrArg (fun rest => before ++ (name.toList ++ rest)) onward
    _ = before ++ (name.toList ++ (between ++ (brackets condition ++ last))) ++
          (skipBlanks after).rest := by
        rw [ended]
        simp only [List.append_assoc]
        rfl

/-- The steps that are read are those of segments that the text spells. -/
theorem follows_of_scanSteps {start last : Cursor}
    (found : scanSteps selector filter start = .ok (path, last)) :
    ∃ segments text, start.rest = text ++ last.rest ∧ Spelled segments text ∧
      Follows filter segments path := by
  fun_induction scanSteps selector filter start generalizing path last with
  | case1 filter start | case2 filter start =>
      cases found
      rcases exists_blank start.rest with ⟨blanks, blank, split⟩
      exact ⟨[], blanks, split, .none blank, .leaf filter⟩
  | case3 filter start here first tail _ line word =>
      rename_i ih
      rcases Outcome.bind_eq_ok.1 found with ⟨⟨next, filtered, within⟩, scanned, found⟩
      rcases exists_segment line word rfl scanned
        with ⟨condition, text, sound, own, leaves, split⟩
      dsimp only at found
      split at found
      · rename_i rest slash
        split at found
        · cases found
        · rcases Outcome.bind_eq_ok.1 found with ⟨⟨further, final⟩, read, same⟩
          cases same
          rcases ih next filtered within rest slash read
            with ⟨segments, behind, onward, others, follows⟩
          refine ⟨_ :: segments, text ++ '/' :: behind, ?_, .more sound own others,
            .step leaves follows⟩
          rw [split, slash, List.append_assoc, List.cons_append, ← onward]
          rfl
      all_goals
        cases found
      · exact ⟨[_], text, split, .last sound own, .step leaves (.leaf next)⟩
      · exact ⟨[_], text, split, .last sound own, .step leaves (.leaf next)⟩
  | case4 => cases found

/-! ## Scanning segments -/

theorem forall_head?_append {front : List Char} {p : Char → Prop} (first : ∀ c ∈ front.head?, p c)
    (second : ∀ c ∈ rest.head?, p c) : ∀ c ∈ (front ++ rest).head?, p c := by
  cases front with
  | nil => exact second
  | cons d more => exact first

/-- Where a segment is scanned, its name comes first. -/
theorem Segment.Spells.dropWhile (own : segment.Spells text) (named : IsStepName segment.name)
    (rest : List Char) :
    ∃ first tail, (text ++ rest).dropWhile isBlank = first :: tail ∧ isWordChar first = true := by
  rcases own with ⟨before, between, after, blank, -, -, rfl⟩
  rcases List.exists_cons_of_ne_nil named.word.1 with ⟨first, tail, split⟩
  have word : isWordChar first = true := named.word.2 first (split ▸ List.mem_cons_self)
  refine ⟨first, tail ++ (between ++ (brackets segment.condition ++ (after ++ rest))), ?_, word⟩
  rw [List.append_assoc, split]
  refine Text.dropWhile_append_of_head? blank ?_ |>.trans (by simp)
  rintro c ⟨⟩
  exact Text.isBlank_eq_false_of_isWordChar word

/-- Where segments are scanned, no slash comes first. -/
theorem Spelled.unslashed (spelled : Spelled segments text) (ends : ∀ c ∈ rest.head?, c = '\x60') :
    ¬(((text ++ rest).dropWhile isBlank).head? == some '/') = true := by
  have named {segment : Segment} {text : List Char} (own : segment.Spells text)
      (sound : segment.Sound) (rest : List Char) :
      ¬(((text ++ rest).dropWhile isBlank).head? == some '/') = true := by
    rcases own.dropWhile sound.named rest with ⟨first, tail, line, word⟩
    rw [line]
    intro slash
    cases beq_iff_eq.1 slash
    cases word
  cases spelled with
  | none blank =>
      have solid : ∀ c ∈ rest.head?, isBlank c = false := by
        intro c first
        rw [ends c first]
        decide
      rw [Text.dropWhile_append_of_head? blank solid]
      intro slash
      cases ends '/' (beq_iff_eq.1 slash)
  | last sound own => exact named own sound rest
  | @more segment segments text behind sound own others =>
      rw [List.append_assoc]
      exact named own sound ('/' :: behind ++ rest)

/-- The condition of a segment is scanned into its filter. -/
theorem scanFilter_brackets (leaves : segment.Leaves next)
    (enclosed : ∀ text ∈ segment.condition, Enclosed text.toList)
    (ends : ∀ c ∈ rest.head?, c ≠ '[') (position : Nat) :
    ∃ after, scanFilter selector segment.name ⟨brackets segment.condition ++ rest, position⟩ =
      .ok (next, after) ∧ after.1.rest = rest := by
  cases leaves with
  | nothing name =>
      cases rest with
      | nil => exact ⟨_, rfl, rfl⟩
      | cons c rest => exact ⟨_, scanFilter_none (ends c rfl) rest position, rfl⟩
  | @filter name text expr parsed =>
      have line : brackets (some text) ++ rest = '[' :: (text.toList ++ ']' :: rest) := by
        simp [brackets]
      have block : readBlock 0 none (text.toList ++ ']' :: rest) = some (text.toList, rest) :=
        readBlock_eq_some_iff.2 (enclosed text rfl)
      rcases scanFilter_block block (Sql.parseCriteria_shift parsed) with ⟨within, scanned⟩
      rw [line]
      exact ⟨_, scanned, rfl⟩

/-- Behind the brackets of a segment, and behind its name where it has none, only blanks stand in
front of what follows. -/
theorem exists_gap (condition : Option String) {between after : List Char} (blank : Blank between)
    (blankAfter : Blank after) (solid : ∀ c ∈ rest.head?, isBlank c = false) :
    ∃ gap, Blank gap ∧ (between ++ (brackets condition ++ (after ++ rest))).dropWhile isBlank =
      brackets condition ++ (gap ++ rest) := by
  cases condition with
  | none =>
      refine ⟨[], nofun, ?_⟩
      change (between ++ (after ++ rest)).dropWhile isBlank = rest
      rw [List.dropWhile_append_of_pos blank, Text.dropWhile_append_of_head? blankAfter solid]
  | some text =>
      refine ⟨after, blankAfter, Text.dropWhile_append_of_head? blank ?_⟩
      rintro c ⟨⟩
      rfl

/-- No character of the name stands behind it. -/
theorem notWord_behind_name (condition : Option String) {between after : List Char}
    (blank : Blank between) (blankAfter : Blank after)
    (apart : ∀ c ∈ rest.head?, isWordChar c = false) :
    ∀ c ∈ (between ++ (brackets condition ++ (after ++ rest))).head?, isWordChar c = false := by
  have blanks {text : List Char} (blank : Blank text) : ∀ c ∈ text.head?, isWordChar c = false :=
    fun c first => Text.isWordChar_eq_false_of_isBlank (blank c (List.mem_of_mem_head? first))
  refine forall_head?_append (blanks blank) (forall_head?_append ?_ ?_)
  · cases condition with
    | none => nofun
    | some text =>
        rintro c ⟨⟩
        rfl
  · exact forall_head?_append (blanks blankAfter) apart

/-- A name is scanned up to what is behind it, and then its filter. -/
theorem scanSteps_name {before behind onward : List Char} (named : IsStepName name)
    (blank : Blank before) (apart : ∀ c ∈ behind.head?, isWordChar c = false)
    (skipped : behind.dropWhile isBlank = onward) (position : Nat) :
    ∃ there : Nat, scanSteps selector filter ⟨before ++ (name.toList ++ behind), position⟩ = (do
      let (next, after) ← scanFilter selector name ⟨onward, there⟩
      scanOnward selector name filter next (skipBlanks after.1)) := by
  rcases List.exists_cons_of_ne_nil named.word.1 with ⟨first, tail, split⟩
  have word : isWordChar first = true := named.word.2 first (split ▸ List.mem_cons_self)
  have dropped := Text.dropWhile_append_of_head? named.word.2 apart
  have taken := List.takeWhile_append_dropWhile (p := isWordChar) (l := name.toList ++ behind)
  rw [dropped, List.append_cancel_right_eq] at taken
  let start : Cursor := ⟨before ++ (name.toList ++ behind), position⟩
  have line : (skipBlanks start).rest = name.toList ++ behind := by
    refine Text.dropWhile_append_of_head? blank ?_
    rw [split]
    rintro c ⟨⟩
    exact Text.isBlank_eq_false_of_isWordChar word
  have spelled : String.ofList ((skipBlanks start).rest.takeWhile isWordChar) = name := by
    rw [line, taken, String.ofList_toList]
  have place : (skipBlanks ((skipBlanks start).advance
      ((skipBlanks start).rest.dropWhile isWordChar))).rest = onward := by
    rw [line, dropped]
    exact skipped
  rw [scanSteps_step rfl (line.trans (congrArg (· ++ behind) split)) word spelled rfl]
  generalize skipBlanks ((skipBlanks start).advance
    ((skipBlanks start).rest.dropWhile isWordChar)) = here at place ⊢
  rcases here with ⟨front, there⟩
  cases place
  exact ⟨there, rfl⟩

/-- A segment is scanned up to what follows it. -/
theorem scanSteps_segment (own : segment.Spells text) (sound : segment.Sound)
    (leaves : segment.Leaves next) (ends : ∀ c ∈ rest.head?, c = '/' ∨ c = '\x60')
    (position : Nat) :
    ∃ after : Cursor, after.rest = rest ∧
      scanSteps selector filter ⟨text ++ rest, position⟩ =
        scanOnward selector segment.name filter next after := by
  have plain {c : Char} (first : c ∈ rest.head?) :
      isBlank c = false ∧ isWordChar c = false ∧ c ≠ '[' := by
    rcases ends c first with rfl | rfl <;> decide
  rcases own with ⟨before, between, last, blank, blankBetween, blankLast, rfl⟩
  rcases exists_gap segment.condition blankBetween blankLast fun c first => (plain first).1
    with ⟨gap, blankGap, onward⟩
  have apart := notWord_behind_name segment.condition blankBetween blankLast
    fun c first => (plain first).2.1
  rcases scanSteps_name sound.named blank apart onward position with ⟨there, named⟩
  have unopened : ∀ c ∈ (gap ++ rest).head?, c ≠ '[' := by
    refine forall_head?_append (fun c first bracket => ?_) fun c first => (plain first).2.2
    subst bracket
    cases blankGap '[' (List.mem_of_mem_head? first)
  rcases scanFilter_brackets leaves sound.enclosed unopened there with ⟨after, scanned, stands⟩
  simp only [List.append_assoc]
  rw [named, scanned]
  refine ⟨skipBlanks after.1, ?_, rfl⟩
  refine (congrArg (List.dropWhile isBlank) stands).trans ?_
  exact Text.dropWhile_append_of_head? blankGap fun c first => (plain first).1

/-- A text of segments is scanned into the path that follows them, up to the end or a grave
accent. -/
theorem scanSteps_of_spelled (spelled : Spelled segments text)
    (follows : Follows filter segments path) (ends : ∀ c ∈ rest.head?, c = '\x60')
    (position : Nat) :
    ∃ last, scanSteps selector filter ⟨text ++ rest, position⟩ = .ok (path, last) ∧
      last.rest = rest := by
  have solid : ∀ c ∈ rest.head?, isBlank c = false := by
    rintro c first
    rw [ends c first]
    decide
  have done : rest.head?.all (· == '\x60') = true := by
    cases rest with
    | nil => rfl
    | cons c more => exact beq_iff_eq.2 (ends c rfl)
  induction spelled generalizing filter path position with
  | none blank =>
      cases follows.eq_leaf
      have stands := Text.dropWhile_append_of_head? blank solid
      refine ⟨_, scanSteps_end ?_, stands⟩
      exact (congrArg (fun rest => rest.head?.all (· == '\x60')) stands).trans done
  | last sound own =>
      rcases follows.eq_step with ⟨next, further, rfl, leaves, others⟩
      cases others.eq_leaf
      rcases scanSteps_segment own sound leaves (fun c first => .inr (ends c first)) position
        with ⟨after, rfl, scanned⟩
      exact ⟨after, scanned.trans (scanOnward_end done), rfl⟩
  | @more segment segments text behind sound own spelled ih =>
      rcases follows.eq_step with ⟨next, further, rfl, leaves, others⟩
      rw [List.append_assoc, List.cons_append]
      have slashed : ∀ c ∈ ('/' :: (behind ++ rest)).head?, c = '/' ∨ c = '\x60' := by
        rintro c ⟨⟩
        exact .inl rfl
      rcases scanSteps_segment own sound leaves slashed position with ⟨after, slash, scanned⟩
      rcases ih others (after.advance (behind ++ rest)).position with ⟨last, read, stands⟩
      refine ⟨last, ?_, stands⟩
      rw [scanned, scanOnward_slash slash, if_neg (spelled.unslashed ends)]
      exact congrArg (· >>= _) read

/-! ## Whole selectors -/

theorem exists_accents (text : List Char) :
    ∃ accents, Accents accents ∧ text = accents ++ text.dropWhile (· == '\x60') :=
  ⟨text.takeWhile (· == '\x60'), fun _ inside => @List.mem_takeWhile_imp _ (· == '\x60') _ _ inside,
    List.takeWhile_append_dropWhile.symm⟩

/-- The cursor in front of the steps of a selector, behind the slash where there is one. -/
def behindSlash (here : Cursor) : Cursor :=
  match here.rest with
  | '/' :: rest => here.advance rest
  | _ => here

theorem exists_slash (here : Cursor) :
    ∃ slash, (slash = [] ∨ slash = ['/']) ∧ here.rest = slash ++ (behindSlash here).rest := by
  rw [behindSlash]
  split
  · rename_i rest line
    exact ⟨['/'], .inr rfl, line⟩
  · exact ⟨[], .inl rfl, rfl⟩

theorem scan_eq (selector : String) (offset : Nat) :
    scan selector offset =
      scanSteps selector none
        (behindSlash (skipBlanks (skipAccents (skipBlanks (Cursor.start selector offset))))) >>=
        scanEnd selector :=
  rfl

/-- A selector that is read is a list of segments, and its path follows them. -/
theorem follows_of_scan {offset : Nat} (accepted : scan selector offset = .ok path) :
    ∃ segments, Selector segments selector.toList ∧ Follows none segments path := by
  rw [scan_eq] at accepted
  rcases Outcome.bind_eq_ok.1 accepted with ⟨⟨whole, last⟩, found, ended⟩
  rw [scanEnd] at ended
  split at ended
  · rename_i done
    cases ended
    rcases follows_of_scanSteps found with ⟨segments, steps, split, spelled, follows⟩
    -- What is skipped in front of the steps and behind them, one kind of character after the other.
    rcases exists_blank selector.toList with ⟨before, blankBefore, first⟩
    rcases exists_accents (skipBlanks (Cursor.start selector offset)).rest
      with ⟨opening, accents, second⟩
    rcases exists_blank (skipAccents (skipBlanks (Cursor.start selector offset))).rest
      with ⟨between, blankBetween, third⟩
    rcases exists_slash (skipBlanks (skipAccents (skipBlanks (Cursor.start selector offset))))
      with ⟨slash, one, fourth⟩
    rcases exists_accents last.rest with ⟨closing, accentsBehind, fifth⟩
    rcases exists_blank (skipAccents last).rest with ⟨after, blankAfter, sixth⟩
    have ended : (skipAccents last).rest.dropWhile isBlank = [] := List.isEmpty_iff.1 done
    refine ⟨segments, ⟨before, opening, between, slash, steps, closing, after, blankBefore, accents,
      blankBetween, one, spelled, accentsBehind, blankAfter, ?_⟩, follows⟩
    calc selector.toList
      _ = before ++ (skipBlanks (Cursor.start selector offset)).rest := first
      _ = before ++ (opening ++ (skipAccents (skipBlanks (Cursor.start selector offset))).rest) :=
          congrArg (before ++ ·) second
      _ = before ++ (opening ++ (between ++ (slash ++ (steps ++ last.rest)))) := by
          rw [third, ← split, ← fourth]
          rfl
      _ = before ++ (opening ++ (between ++ (slash ++ (steps ++ (closing ++ after))))) := by
          rw [ended, List.append_nil] at sixth
          rw [fifth, ← sixth]
          rfl
  · cases ended

/-- Blanks may stand behind segments. -/
theorem Spelled.append_blank (spelled : Spelled segments text) {blanks : List Char}
    (blank : Blank blanks) : Spelled segments (text ++ blanks) := by
  have both {front : List Char} (own : Blank front) : Blank (front ++ blanks) := fun c inside =>
    (List.mem_append.1 inside).elim (own c) (blank c)
  induction spelled with
  | none own => exact .none (both own)
  | last sound own =>
      rcases own with ⟨before, between, after, blankBefore, blankBetween, blankAfter, rfl⟩
      exact .last sound
        ⟨before, between, after ++ blanks, blankBefore, blankBetween, both blankAfter, by simp⟩
  | more sound own others ih =>
      rw [List.append_assoc, List.cons_append]
      exact .more sound own ih

/-- The first segment starts with its name behind the blanks in front of it. -/
theorem Spelled.exists_front (spelled : Spelled (segment :: segments) text) :
    ∃ blanks front, text = blanks ++ front ∧ Blank blanks ∧ Spelled (segment :: segments) front ∧
      ∃ first tail, front = first :: tail ∧ isWordChar first = true := by
  have split {segment : Segment} {text : List Char} (sound : segment.Sound)
      (own : segment.Spells text) :
      ∃ blanks front, text = blanks ++ front ∧ Blank blanks ∧ segment.Spells front ∧
        ∃ first tail, front = first :: tail ∧ isWordChar first = true := by
    rcases own with ⟨before, between, after, blankBefore, blankBetween, blankAfter, rfl⟩
    rcases List.exists_cons_of_ne_nil sound.named.word.1 with ⟨first, tail, name⟩
    refine ⟨before, _, rfl, blankBefore,
      ⟨[], between, after, nofun, blankBetween, blankAfter, rfl⟩, first, ?_⟩
    rw [name]
    exact ⟨_, rfl, sound.named.word.2 first (name ▸ List.mem_cons_self)⟩
  cases spelled with
  | last sound own =>
      rcases split sound own with ⟨blanks, front, rfl, blank, spells, starts⟩
      exact ⟨blanks, front, rfl, blank, .last sound spells, starts⟩
  | @more _ _ _ behind sound own others =>
      rcases split sound own with ⟨blanks, front, rfl, blank, spells, first, tail, rfl, word⟩
      exact ⟨blanks, _, List.append_assoc .., blank, .more sound spells others, first, _, rfl, word⟩

/-! ## Reading whole selectors -/

/-- What the scan leaves of a text when it has skipped blanks, grave accents and blanks again. -/
def skipFront (text : List Char) : List Char :=
  ((text.dropWhile isBlank).dropWhile (· == '\x60')).dropWhile isBlank

theorem rest_skipFront (selector : String) (offset : Nat) :
    (skipBlanks (skipAccents (skipBlanks (Cursor.start selector offset)))).rest =
      skipFront selector.toList :=
  rfl

theorem skipFront_suffix {before opening between behind : List Char} (blank : Blank before)
    (accents : Accents opening) (blankBetween : Blank between)
    (part : text <:+ before ++ (opening ++ (between ++ behind))) : skipFront text <:+ behind :=
  Text.dropWhile_suffix_of_suffix blankBetween <|
    @Text.dropWhile_suffix_of_suffix _ _ _ (· == '\x60') accents <|
      Text.dropWhile_suffix_of_suffix blank part

/-- The scan skips what stands in front of a character that is neither a blank nor an accent. -/
theorem skipFront_append {before opening between : List Char} (blank : Blank before)
    (accents : Accents opening) (blankBetween : Blank between) {c : Char}
    (solid : isBlank c = false) (plain : (c == '\x60') = false) (rest : List Char) :
    skipFront (before ++ (opening ++ (between ++ c :: rest))) = c :: rest := by
  have behind {p : Char → Bool} (stops : p c = false) (front : List Char) :
      (front ++ c :: rest).dropWhile p = front.dropWhile p ++ c :: rest := by
    rw [List.dropWhile_append]
    split
    · rename_i none
      rw [List.isEmpty_iff.1 none, List.dropWhile_cons_of_neg (by simp [stops])]
      rfl
    · rfl
  have none : skipFront (before ++ (opening ++ between)) = [] := by
    have part : before ++ (opening ++ between) <:+ before ++ (opening ++ (between ++ [])) := by
      simp
    exact List.suffix_nil.1 (skipFront_suffix blank accents blankBetween part)
  have whole : before ++ (opening ++ (between ++ c :: rest)) =
      before ++ (opening ++ between) ++ c :: rest := by
    simp only [List.append_assoc]
  rw [whole, skipFront, behind solid, @behind (· == '\x60') plain, behind solid]
  exact congrArg (· ++ c :: rest) none

theorem behindSlash_of_word {here : Cursor} {first : Char} {tail : List Char}
    (line : here.rest = first :: tail) (word : isWordChar first = true) :
    behindSlash here = here := by
  rw [behindSlash]
  split
  · rename_i slash
    cases slash.symm.trans line
    cases word
  · rfl

/-- What is left of accents and the blanks behind them is accents and blanks. -/
theorem exists_accents_of_suffix {closing after : List Char} (accents : Accents closing)
    (blank : Blank after) (left : text <:+ closing ++ after) :
    ∃ front behind, Accents front ∧ Blank behind ∧ text = front ++ behind := by
  rcases List.suffix_or_suffix_of_suffix left (List.suffix_append closing after) with
    short | ⟨front, rfl⟩
  · exact ⟨[], text, nofun, fun c inside => blank c (short.subset inside), rfl⟩
  · rcases left with ⟨before, same⟩
    rw [← List.append_assoc, List.append_cancel_right_eq] at same
    exact ⟨front, after, fun c inside => accents c (same ▸ List.mem_append_right before inside),
      blank, rfl⟩

theorem behindSlash_of_accents {here : Cursor} {closing after : List Char}
    (accents : Accents closing) (blank : Blank after) (line : here.rest = closing ++ after) :
    behindSlash here = here := by
  rw [behindSlash]
  split
  · rename_i slash
    have inside : '/' ∈ closing ++ after := by
      rw [← line, slash]
      exact List.mem_cons_self
    rcases List.mem_append.1 inside with inside | inside
    · cases accents _ inside
    · cases blank _ inside
  · rfl

/-- A scan ends where only accents and then blanks are left. -/
theorem scanEnd_of_suffix {last : Cursor} {closing after : List Char} (accents : Accents closing)
    (blank : Blank after) (left : last.rest <:+ closing ++ after) :
    scanEnd selector (path, last) = .ok path := by
  have behind : (skipAccents last).rest <:+ after ++ [] := by
    rw [List.append_nil]
    exact @Text.dropWhile_suffix_of_suffix _ _ _ (· == '\x60') accents left
  have done : (skipBlanks (skipAccents last)).rest = [] :=
    List.suffix_nil.1 (Text.dropWhile_suffix_of_suffix blank behind)
  exact if_pos (List.isEmpty_iff.2 done)

/-- Segments are scanned from where they start, up to the accents and blanks behind them. -/
theorem scanSteps_scanEnd {start : Cursor} {closing after : List Char}
    (spelled : Spelled segments text) (follows : Follows none segments path)
    (accents : Accents closing) (blank : Blank after)
    (line : start.rest = text ++ (closing ++ after)) :
    scanSteps selector none start >>= scanEnd selector = .ok path := by
  -- Where no accent follows, the blanks belong to the segments.
  have split : ∃ segmentText rest, text ++ (closing ++ after) = segmentText ++ rest ∧
      Spelled segments segmentText ∧ (∀ c ∈ rest.head?, c = '\x60') ∧
        rest <:+ closing ++ after := by
    cases closing with
    | nil => exact ⟨text ++ after, [], by simp, spelled.append_blank blank, nofun, by simp⟩
    | cons c closing =>
        refine ⟨text, _, rfl, spelled, ?_, List.suffix_refl _⟩
        rintro _ ⟨⟩
        exact beq_iff_eq.1 (accents c List.mem_cons_self)
  rcases split with ⟨segmentText, rest, same, spelled, ends, left⟩
  rcases start with ⟨front, position⟩
  obtain rfl : front = segmentText ++ rest := line.trans same
  rcases scanSteps_of_spelled spelled follows ends position with ⟨last, read, rfl⟩
  exact (congrArg (· >>= scanEnd selector) read).trans (scanEnd_of_suffix accents blank left)

/-- A selector that spells the segments of a path is read as this path. -/
theorem scan_of_selector (spelled : Selector segments selector.toList)
    (follows : Follows none segments path) (offset : Nat) : scan selector offset = .ok path := by
  rcases spelled with ⟨before, opening, between, slash, steps, closing, after, blank, accents,
    blankBetween, slashed, spelled, closes, blankAfter, line⟩
  have front := rest_skipFront selector offset
  rw [scan_eq]
  generalize skipBlanks (skipAccents (skipBlanks (Cursor.start selector offset))) = here at front ⊢
  rw [line] at front
  rcases slashed with rfl | rfl
  · cases segments with
    | nil =>
        cases follows.eq_leaf
        cases spelled with | none inside =>
        have inner : Blank (between ++ steps) := fun c member =>
          (List.mem_append.1 member).elim (blankBetween c) (inside c)
        have left : here.rest <:+ closing ++ after := by
          rw [front]
          exact skipFront_suffix blank accents inner (by simp)
        rcases exists_accents_of_suffix closes blankAfter left with
          ⟨closing, after, closes, blankAfter, stands⟩
        rw [behindSlash_of_accents closes blankAfter stands]
        exact scanSteps_scanEnd (@Spelled.none [] nofun) (.leaf none) closes blankAfter stands
    | cons segment segments =>
        rcases spelled.exists_front with
          ⟨blanks, text, rfl, inside, spelled, first, tail, rfl, word⟩
        have inner : Blank (between ++ blanks) := fun c member =>
          (List.mem_append.1 member).elim (blankBetween c) (inside c)
        have stands : here.rest = first :: tail ++ (closing ++ after) := by
          rw [front, List.nil_append, List.append_assoc blanks, ← List.append_assoc between,
            List.cons_append]
          have plain : (first == '\x60') = false := by
            refine beq_false_of_ne ?_
            rintro rfl
            cases word
          have solid := Text.isBlank_eq_false_of_isWordChar word
          exact skipFront_append blank accents inner solid plain _
        rw [behindSlash_of_word stands word]
        exact scanSteps_scanEnd spelled follows closes blankAfter stands
  · have stands : here.rest = '/' :: (steps ++ (closing ++ after)) := by
      rw [front]
      exact skipFront_append blank accents blankBetween (by decide) (by decide) _
    have behind : (behindSlash here).rest = steps ++ (closing ++ after) := by
      rw [behindSlash]
      split
      · rename_i slash
        cases slash.symm.trans stands
        rfl
      · rename_i none
        exact absurd stands (none _)
    exact scanSteps_scanEnd spelled follows closes blankAfter behind

/-! ## Writing paths -/

/-- The steps of a path behind its first point: each name with a slash in front, and the condition
of the filter behind it in brackets. -/
def written : Path → List Char
  | .leaf _ => []
  | .step _ name next =>
      '/' :: (name.toList ++ (brackets (next.filter.map Filter.text) ++ next.written))

/-- A path written as a selector. Without steps it is a slash. -/
def render : Path → String
  | .leaf _ => "/"
  | .step filter name next => String.ofList (written (.step filter name next))

theorem Segment.Leaves.condition (leaves : segment.Leaves next) :
    next.map Filter.text = segment.condition := by
  cases leaves <;> rfl

theorem Spelled.sound (spelled : Spelled segments text) : ∀ own ∈ segments, own.Sound := by
  induction spelled with
  | none blank => nofun
  | last sound own => simpa using sound
  | more sound own others ih => exact List.forall_mem_cons.2 ⟨sound, ih⟩

/-- A path is written as the segments that it follows. -/
theorem spelled_written (follows : Follows filter (segment :: segments) path)
    (sound : ∀ own ∈ segment :: segments, own.Sound) :
    ∃ steps, path.written = '/' :: steps ∧ Spelled (segment :: segments) steps := by
  have spells (segment : Segment) :
      segment.Spells (segment.name.toList ++ brackets segment.condition) :=
    ⟨[], [], [], nofun, nofun, nofun, by simp⟩
  induction segments generalizing filter segment path with
  | nil =>
      rcases follows.eq_step with ⟨next, further, rfl, leaves, others⟩
      cases others.eq_leaf
      refine ⟨_, ?_, .last (sound _ List.mem_cons_self) (spells segment)⟩
      simp [written, Path.filter, leaves.condition]
  | cons other segments ih =>
      rcases follows.eq_step with ⟨next, further, rfl, leaves, others⟩
      rcases ih others fun own inside => sound own (List.mem_cons_of_mem _ inside)
        with ⟨steps, behind, spelled⟩
      refine ⟨_, ?_, .more (sound _ List.mem_cons_self) (spells segment) spelled⟩
      simp [written, others.filter_eq, leaves.condition, behind]

/-- What a path is written as is a slash and the segments that the path follows. -/
theorem exists_render (follows : Follows none segments path)
    (sound : ∀ own ∈ segments, own.Sound) :
    ∃ steps, path.render.toList = '/' :: steps ∧ Spelled segments steps := by
  cases segments with
  | nil =>
      cases follows.eq_leaf
      exact ⟨[], rfl, .none nofun⟩
  | cons segment segments =>
      rcases spelled_written follows sound with ⟨steps, line, spelled⟩
      rcases follows.eq_step with ⟨next, further, rfl, -, -⟩
      exact ⟨steps, by rw [render, String.toList_ofList, line], spelled⟩

/-- A slash and the segments that a path follows are read as the path. -/
theorem scan_of_spelled (line : selector.toList = '/' :: text) (spelled : Spelled segments text)
    (follows : Follows none segments path) (offset : Nat) : scan selector offset = .ok path := by
  refine scan_of_selector ⟨[], [], [], ['/'], text, [], [], nofun, nofun, nofun, .inr rfl, spelled,
    nofun, nofun, ?_⟩ follows offset
  simpa using line

/-- The path that is read from a selector has one step for each segment, named like it, in order. No
filter stands at its first point, and behind each step stands the filter of the segment: none where
the segment has no brackets, else what is read from the text between them, held by the name. Written
out again, wherever this stands, the path is read as it was. -/
theorem scan_render {offset : Nat} (accepted : scan selector offset = .ok path) :
    (∃ segments filters, Selector segments selector.toList ∧
      path.names = segments.map Segment.name ∧ path.points = none :: filters ∧
      List.Forall₂ Segment.Leaves segments filters) ∧
    ∀ other, scan path.render other = .ok path := by
  rcases follows_of_scan accepted with ⟨segments, spelled, follows⟩
  have sound : ∀ own ∈ segments, own.Sound := by
    rcases spelled with ⟨_, _, _, _, _, _, _, -, -, -, -, steps, -⟩
    exact steps.sound
  rcases exists_render follows sound with ⟨steps, line, again⟩
  refine ⟨?_, fun other => scan_of_spelled line again follows other⟩
  rcases follows with ⟨names, filters, points, leaves⟩
  exact ⟨segments, filters, spelled, names, points, leaves⟩

/-- A selector with blanks, grave accents, and a bracket in a literal of its condition. -/
theorem scan_render_vendors :
    ∃ path, scan " \x60/Vendors [Name = 'a]b'] / Products/\x60" 0 = .ok path ∧
      path.render = "/Vendors[Name = 'a]b']/Products" ∧
      scan "/Vendors[Name = 'a]b']/Products" 0 = .ok path := by
  have accepted : (render <$> scan " \x60/Vendors [Name = 'a]b'] / Products/\x60" 0).toOption =
      some "/Vendors[Name = 'a]b']/Products" := by
    decide +kernel
  rcases Outcome.map_eq_ok.1 (Outcome.toOption_eq_some.1 accepted) with ⟨path, found, written⟩
  refine ⟨path, found, written, ?_⟩
  rw [← written]
  exact (scan_render found).2 0

end RecordQuery.Path
