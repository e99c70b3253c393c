import RecordQuery.Proofs.Path.Segments

/-!
# The grammar of selectors

A selector is empty, a slash, or one step behind the other with a slash between each two of them and
perhaps one in front. The scan accepts all of them, and it accepts one thing more: an idle slash
behind the last step, which nothing follows.
-/

namespace RecordQuery.Path

open Sql (Cursor)
open Text (Blank isBlank isWordChar)

/-! ## Selectors of the grammar -/

/-- The condition of a segment, where it has one, can be read. -/
def Segment.Readable (segment : Segment) : Prop :=
  ∀ text ∈ segment.condition, ∃ expr, Sql.parseCriteria text 0 = .ok expr

/-- A step is a name, with a condition in brackets behind it or without. -/
def IsStep (text : List Char) : Prop :=
  ∃ segment : Segment, segment.Sound ∧ segment.Readable ∧ segment.Spells text

/-- Steps with a slash between each two of them. -/
inductive Steps : List Char → Prop where
  | last {text : List Char} (own : IsStep text) : Steps text
  | more {text behind : List Char} (own : IsStep text) (others : Steps behind) :
      Steps (text ++ '/' :: behind)

/-- A selector is what stands between blanks and grave accents, behind a slash or without it. -/
def Wraps (selector body : List Char) : Prop :=
  ∃ before opening between slash closing after,
    Blank before ∧ Accents opening ∧ Blank between ∧ (slash = [] ∨ slash = ['/']) ∧
    Accents closing ∧ Blank after ∧
    selector = before ++ (opening ++ (between ++ (slash ++ (body ++ (closing ++ after)))))

/-- A selector of the grammar: nothing or a slash, or steps with or without a slash in front. -/
def Grammatical (selector : List Char) : Prop :=
  ∃ body, Wraps selector body ∧ (Blank body ∨ Steps body)

/-- A selector with a slash behind its last step. -/
def HasIdleSlash (selector : List Char) : Prop :=
  ∃ steps blanks, Steps steps ∧ Blank blanks ∧ Wraps selector (steps ++ '/' :: blanks)

/-! ## Segments and steps -/

variable {selector name : String} {filter next : Option Filter} {segment : Segment}
  {segments : List Segment} {path : Path} {text rest : List Char}

/-- A selector spells the segments that are spelled by what it wraps. -/
theorem selector_iff_wraps :
    Selector segments text ↔ ∃ body, Wraps text body ∧ Spelled segments body := by
  constructor
  · rintro ⟨before, opening, between, slash, body, closing, after, blank, accents, blankBetween,
      slashed, spelled, closes, blankAfter, line⟩
    exact ⟨body, ⟨before, opening, between, slash, closing, after, blank, accents, blankBetween,
      slashed, closes, blankAfter, line⟩, spelled⟩
  · rintro ⟨body, ⟨before, opening, between, slash, closing, after, blank, accents, blankBetween,
      slashed, closes, blankAfter, line⟩, spelled⟩
    exact ⟨before, opening, between, slash, body, closing, after, blank, accents, blankBetween,
      slashed, spelled, closes, blankAfter, line⟩

theorem Segment.Leaves.readable (leaves : segment.Leaves next) : segment.Readable := by
  cases leaves with
  | nothing name => nofun
  | filter parsed =>
      rintro _ ⟨⟩
      exact ⟨_, parsed⟩

theorem Segment.Readable.exists_leaves (readable : segment.Readable) :
    ∃ next, segment.Leaves next := by
  rcases segment with ⟨name, _ | text⟩
  · exact ⟨none, .nothing name⟩
  · rcases readable text rfl with ⟨expr, parsed⟩
    exact ⟨_, .filter parsed⟩

/-- The conditions of the segments that a path follows can be read. -/
theorem Follows.readable (follows : Follows filter segments path) :
    ∀ segment ∈ segments, segment.Readable := by
  rcases follows.filters with ⟨behind, -, leaves⟩
  intro segment inside
  rcases Outcome.exists_result_of_mem leaves inside with ⟨next, -, own⟩
  exact own.readable

/-- Some path follows segments whose conditions can be read. -/
theorem exists_follows (readable : ∀ segment ∈ segments, segment.Readable)
    (filter : Option Filter) : ∃ path, Follows filter segments path := by
  induction segments generalizing filter with
  | nil => exact ⟨_, .leaf filter⟩
  | cons segment segments ih =>
      rw [List.forall_mem_cons] at readable
      rcases readable.1.exists_leaves with ⟨next, leaves⟩
      rcases ih readable.2 next with ⟨path, follows⟩
      exact ⟨_, .step leaves follows⟩

/-- Segments are nothing, steps, or steps with an idle slash behind them. -/
theorem Spelled.cases (spelled : Spelled segments text)
    (readable : ∀ segment ∈ segments, segment.Readable) :
    Blank text ∨ Steps text ∨
      ∃ steps blanks, Steps steps ∧ Blank blanks ∧ text = steps ++ '/' :: blanks := by
  induction spelled with
  | none blank => exact .inl blank
  | last sound own => exact .inr (.inl (.last ⟨_, sound, readable _ List.mem_cons_self, own⟩))
  | @more segment segments text behind sound own others ih =>
      rw [List.forall_mem_cons] at readable
      have step : IsStep text := ⟨segment, sound, readable.1, own⟩
      rcases ih readable.2 with blank | steps | ⟨steps, blanks, front, blank, rfl⟩
      · exact .inr (.inr ⟨text, behind, .last step, blank, rfl⟩)
      · exact .inr (.inl (.more step steps))
      · exact .inr (.inr ⟨text ++ '/' :: steps, blanks, .more step front, blank, by simp⟩)

/-- Steps are segments whose conditions can be read. -/
theorem Steps.exists_spelled (steps : Steps text) :
    ∃ segments, Spelled segments text ∧ ∀ segment ∈ segments, segment.Readable := by
  induction steps with
  | last own =>
      rcases own with ⟨segment, sound, readable, spells⟩
      exact ⟨[segment], .last sound spells, by simpa using readable⟩
  | more own others ih =>
      rcases own with ⟨segment, sound, readable, spells⟩
      rcases ih with ⟨segments, spelled, each⟩
      exact ⟨segment :: segments, .more sound spells spelled,
        List.forall_mem_cons.2 ⟨readable, each⟩⟩

/-- So are steps with a slash behind the last of them. -/
theorem Steps.exists_spelled_idle (steps : Steps text) {blanks : List Char} (blank : Blank blanks) :
    ∃ segments, Spelled segments (text ++ '/' :: blanks) ∧
      ∀ segment ∈ segments, segment.Readable := by
  induction steps with
  | last own =>
      rcases own with ⟨segment, sound, readable, spells⟩
      exact ⟨[segment], .more sound spells (.none blank), by simpa using readable⟩
  | more own others ih =>
      rcases own with ⟨segment, sound, readable, spells⟩
      rcases ih with ⟨segments, spelled, each⟩
      rw [List.append_assoc, List.cons_append]
      exact ⟨segment :: segments, .more sound spells spelled,
        List.forall_mem_cons.2 ⟨readable, each⟩⟩

/-! ## Selectors that are accepted -/

/-- The scan accepts the texts that spell segments whose conditions can be read. -/
theorem isAccepted_iff {offset : Nat} :
    (∃ path, scan selector offset = .ok path) ↔
      ∃ segments, Selector segments selector.toList ∧ ∀ own ∈ segments, own.Readable := by
  constructor
  · rintro ⟨path, accepted⟩
    rcases follows_of_scan accepted with ⟨segments, spelled, follows⟩
    exact ⟨segments, spelled, follows.readable⟩
  · rintro ⟨segments, spelled, readable⟩
    rcases exists_follows readable none with ⟨path, follows⟩
    exact ⟨path, scan_of_selector spelled follows offset⟩

/-! ## Idle slashes -/

/-- Whether a character counts at the ends of a selector. -/
def isSolid (c : Char) : Bool := !isBlank c && c != '\x60'

theorem filter_isSolid_of_blank (blank : Blank text) : text.filter isSolid = [] := by
  rw [List.filter_eq_nil_iff]
  intro c inside
  simp [isSolid, blank c inside]

theorem filter_isSolid_of_accents (accents : Accents text) : text.filter isSolid = [] := by
  rw [List.filter_eq_nil_iff]
  intro c inside
  have accent := accents c inside
  simp_all [isSolid]

theorem isSolid_of_isWordChar {c : Char} (word : isWordChar c = true) : isSolid c = true := by
  rw [isSolid, Text.isBlank_eq_false_of_isWordChar word]
  refine bne_iff_ne.2 ?_
  rintro rfl
  cases word

/-- The last character of a step belongs to its name or closes its brackets. -/
theorem IsStep.exists_last (step : IsStep text) :
    ∃ c, (text.filter isSolid).getLast? = some c ∧ c ≠ '/' := by
  rcases step with ⟨⟨name, condition⟩, sound, -, before, between, after, -, blank, blankAfter, rfl⟩
  simp only [List.filter_append, filter_isSolid_of_blank blank, filter_isSolid_of_blank blankAfter,
    List.append_nil, List.nil_append, List.getLast?_append]
  cases condition with
  | none =>
      have solid : name.toList.filter isSolid = name.toList :=
        List.filter_eq_self.2 fun c inside => isSolid_of_isWordChar (sound.named.word.2 c inside)
      refine ⟨name.toList.getLast sound.named.word.1, ?_, ?_⟩
      · simp [brackets, solid, List.getLast?_eq_some_getLast sound.named.word.1]
      · intro slash
        have word := sound.named.word.2 _ (List.getLast_mem sound.named.word.1)
        rw [slash] at word
        cases word
  | some condition =>
      have closing : brackets (some condition) = '[' :: condition.toList ++ [']'] := rfl
      have bracket : [']'].filter isSolid = [']'] := by decide
      refine ⟨']', ?_, by decide⟩
      rw [closing, List.filter_append, bracket, List.getLast?_concat]
      rfl

/-- So do the last characters of steps. -/
theorem Steps.exists_last (steps : Steps text) :
    ∃ c, (text.filter isSolid).getLast? = some c ∧ c ≠ '/' := by
  induction steps with
  | last own => exact own.exists_last
  | more own others ih =>
      rcases ih with ⟨c, last, plain⟩
      refine ⟨c, ?_, plain⟩
      rw [List.filter_append, List.filter_cons_of_pos (by decide), List.getLast?_append,
        List.getLast?_cons, last]
      rfl

/-- Only what a selector wraps counts in it. -/
theorem Wraps.filter_isSolid {selector body : List Char} (wraps : Wraps selector body) :
    ∃ slash, (slash = [] ∨ slash = ['/']) ∧
      selector.filter isSolid = slash ++ body.filter isSolid := by
  rcases wraps with ⟨before, opening, between, slash, closing, after, blank, accents, blankBetween,
    slashed, closes, blankAfter, rfl⟩
  refine ⟨slash, slashed, ?_⟩
  have kept : slash.filter isSolid = slash := by
    rcases slashed with rfl | rfl <;> decide
  simp only [List.filter_append, filter_isSolid_of_blank blank, filter_isSolid_of_accents accents,
    filter_isSolid_of_blank blankBetween, kept, filter_isSolid_of_accents closes,
    filter_isSolid_of_blank blankAfter, List.nil_append, List.append_nil]

/-- No selector of the grammar has an idle slash. -/
theorem Grammatical.not_hasIdleSlash {selector : List Char} (grammatical : Grammatical selector) :
    ¬HasIdleSlash selector := by
  rintro ⟨steps, blanks, front, blank, idle⟩
  rcases grammatical with ⟨body, wraps, own⟩
  rcases idle.filter_isSolid with ⟨first, -, idle⟩
  rcases wraps.filter_isSolid with ⟨slash, slashed, line⟩
  -- The idle slash is the last character that counts, and the steps in front of it count too.
  have behind : (steps ++ '/' :: blanks).filter isSolid = steps.filter isSolid ++ ['/'] := by
    rw [List.filter_append, List.filter_cons_of_pos (by decide), filter_isSolid_of_blank blank]
  rw [idle, behind] at line
  rcases own with own | own
  · rcases front.exists_last with ⟨c, last, -⟩
    have some : 0 < (steps.filter isSolid).length :=
      List.length_pos_of_mem (List.mem_of_getLast? last)
    have lengths := congrArg List.length line
    simp only [filter_isSolid_of_blank own, List.length_append, List.length_singleton,
      List.length_nil] at lengths
    rcases slashed with rfl | rfl
    all_goals
      simp only [List.length_nil, List.length_singleton] at lengths
      omega
  · rcases own.exists_last with ⟨c, last, other⟩
    have ends := congrArg List.getLast? line
    rw [← List.append_assoc, List.getLast?_concat, List.getLast?_append, last] at ends
    exact other (Option.some.inj ends).symm

/-! ## What is accepted -/

/-- The scan accepts the selectors of the grammar and those with an idle slash behind their last
step, and nothing else. No selector is both, so what is accepted is outside the grammar exactly
where it has an idle slash. -/
theorem accepted_iff_grammatical_or_idle (selector : String) (offset : Nat) :
    ((∃ path, scan selector offset = .ok path) ↔
      Grammatical selector.toList ∨ HasIdleSlash selector.toList) ∧
    ¬(Grammatical selector.toList ∧ HasIdleSlash selector.toList) := by
  refine ⟨?_, fun both => both.1.not_hasIdleSlash both.2⟩
  simp only [isAccepted_iff, selector_iff_wraps]
  constructor
  · rintro ⟨segments, ⟨body, wraps, spelled⟩, readable⟩
    rcases spelled.cases readable with empty | steps | ⟨steps, blanks, front, idle, rfl⟩
    · exact .inl ⟨body, wraps, .inl empty⟩
    · exact .inl ⟨body, wraps, .inr steps⟩
    · exact .inr ⟨steps, blanks, front, idle, wraps⟩
  · rintro (⟨body, wraps, empty | steps⟩ | ⟨steps, blanks, front, idle, wraps⟩)
    · exact ⟨[], ⟨body, wraps, .none empty⟩, nofun⟩
    · rcases steps.exists_spelled with ⟨segments, spelled, readable⟩
      exact ⟨segments, ⟨body, wraps, spelled⟩, readable⟩
    · rcases front.exists_spelled_idle idle with ⟨segments, spelled, readable⟩
      exact ⟨segments, ⟨_, wraps, spelled⟩, readable⟩

/-- A slash behind the last step is accepted, and the grammar has no such selector. -/
theorem idle_slash_accepted :
    (∃ path, scan "A/" 0 = .ok path) ∧ ¬Grammatical "A/".toList := by
  have accepted : (scan "A/" 0).toOption.isSome = true := by decide +kernel
  have named : IsStepName "A" := ⟨by decide, by decide⟩
  have step : IsStep ['A'] :=
    ⟨⟨"A", none⟩, ⟨named, nofun⟩, nofun, [], [], [], nofun, nofun, nofun, rfl⟩
  have idle : HasIdleSlash "A/".toList :=
    ⟨['A'], [], .last step, nofun, [], [], [], [], [], [], nofun, nofun, nofun, .inl rfl, nofun,
      nofun, rfl⟩
  rcases Option.isSome_iff_exists.1 accepted with ⟨path, found⟩
  exact ⟨⟨path, Outcome.toOption_eq_some.1 found⟩, fun own => own.not_hasIdleSlash idle⟩

end RecordQuery.Path
