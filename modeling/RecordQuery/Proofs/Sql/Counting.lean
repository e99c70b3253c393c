import RecordQuery.Proofs.Path.Blocks
import RecordQuery.Proofs.Sql.Placeholders
import RecordQuery.Table.Statement

/-!
# Counting placeholders without tokens

The placeholders of a statement are counted character by character: question marks count outside
quotes, and grave accents count as quotes. The count does not know comments, and it takes backslashes
in names between grave accents for escapes. So both can make it count other question marks, or miss
placeholders. Apart from them every placeholder counts once.
-/

namespace RecordQuery.Sql

open RecordQuery.Path (before before_append exists_append_of_skipTrivia)

/-! ## Quotes -/

/-- Whether a character opens what the count takes for quotes. -/
def isQuote (c : Char) : Bool := c == '\'' || c == '"' || c == '\x60'

namespace Quoting

/-- How a text is quoted behind one character more. -/
def behind : Quoting → Char → Quoting
  | .escaped mark, _ => .quoted mark
  | .quoted mark, c =>
      if c == '\\' then .escaped mark else if c == mark then .bare else .quoted mark
  | .bare, c => if isQuote c then .quoted c else .bare

/-- How a text is quoted behind a text more. -/
def across (quoting : Quoting) (text : List Char) : Quoting := text.foldl behind quoting

end Quoting

theorem countPlaceholders_cons (quoting : Quoting) (c : Char) (text : List Char) :
    countPlaceholders quoting (c :: text) =
      countPlaceholders quoting [c] + countPlaceholders (quoting.behind c) text := by
  cases quoting with
  | escaped mark => simp [countPlaceholders, Quoting.behind]
  | quoted mark =>
      simp only [countPlaceholders, Quoting.behind]
      split
      · simp
      · split <;> simp
  | bare =>
      have opens : isQuote c = (c == '\'' || c == '"' || c == '\x60') := rfl
      simp only [countPlaceholders, Quoting.behind, opens]
      split
      · simp
      · split <;> simp [Nat.add_comm]

/-- Counting in a text that is quoted in one way up to its end, where it is quoted in another. -/
structure Counts (quoting : Quoting) (text : List Char) (number : Nat) (last : Quoting) : Prop where
  counted : countPlaceholders quoting text = number
  across : quoting.across text = last

section

variable {quoting middle last : Quoting} {first second text : List Char} {number more : Nat}
  {quote c : Char}

theorem counts (quoting : Quoting) (text : List Char) :
    Counts quoting text (countPlaceholders quoting text) (quoting.across text) :=
  ⟨rfl, rfl⟩

theorem Counts.append (front : Counts quoting first number middle)
    (back : Counts middle second more last) :
    Counts quoting (first ++ second) (number + more) last := by
  induction first generalizing quoting number with
  | nil =>
      cases front.counted
      cases front.across
      exact ⟨back.counted.trans (Nat.zero_add more).symm, back.across⟩
  | cons c rest ih =>
      have joined := ih ⟨rfl, front.across⟩
      refine ⟨?_, joined.across⟩
      rw [List.cons_append, countPlaceholders_cons, joined.counted, ← front.counted,
        countPlaceholders_cons quoting c rest, Nat.add_assoc]

/-! ## Tokens -/

/-- Outside quotes, all question marks count as long as no quotes are opened. -/
theorem counts_of_unquoted (unquoted : ∀ c ∈ text, isQuote c = false) :
    Counts .bare text (text.count '?') .bare := by
  induction text with
  | nil => exact ⟨rfl, rfl⟩
  | cons c rest ih =>
      rw [List.forall_mem_cons] at unquoted
      have first : Counts .bare [c] (List.count '?' [c]) .bare := by
        constructor
        · have bare := unquoted.1
          rw [isQuote] at bare
          rw [countPlaceholders, bare]
          by_cases mark : c = '?' <;> simp [mark, countPlaceholders]
        · simp [Quoting.across, Quoting.behind, unquoted.1]
      have all := first.append (ih unquoted.2)
      rwa [List.singleton_append, ← List.count_append] at all

theorem counts_opening (opens : isQuote c = true) : Counts .bare [c] 0 (.quoted c) := by
  constructor
  · rw [isQuote] at opens
    rw [countPlaceholders, if_pos opens, countPlaceholders]
  · simp [Quoting.across, Quoting.behind, opens]

theorem counts_closing (plain : quote ≠ '\\') : Counts (.quoted quote) [quote] 0 .bare := by
  constructor <;> simp [countPlaceholders, Quoting.across, Quoting.behind, plain]

theorem counts_inside (notQuote : c ≠ quote) (notEscape : c ≠ '\\') :
    Counts (.quoted quote) [c] 0 (.quoted quote) := by
  constructor <;> simp [countPlaceholders, Quoting.across, Quoting.behind, notQuote, notEscape]

theorem counts_escape (quote hidden : Char) :
    Counts (.quoted quote) ['\\', hidden] 0 (.quoted quote) := by
  constructor <;> simp [countPlaceholders, Quoting.across, Quoting.behind]

/-- Nothing counts in a string literal. -/
theorem counts_of_literalTail (opens : quote = '\'' ∨ quote = '"')
    (tail : LiteralTail quote text) : Counts (.quoted quote) text 0 .bare := by
  have plain : quote ≠ '\\' := by rcases opens with rfl | rfl <;> decide
  have isOpening : isQuote quote = true := by rcases opens with rfl | rfl <;> rfl
  induction tail with
  | close => exact counts_closing plain
  | twice behind ih => exact (counts_closing plain).append ((counts_opening isOpening).append ih)
  | escape hidden behind ih => exact (counts_escape quote hidden).append ih
  | other notQuote notEscape behind ih => exact (counts_inside notQuote notEscape).append ih

/-- Nothing counts in a name between grave accents, unless a backslash hides the closing one. -/
theorem counts_of_name {name : List Char} (inside : '\x60' ∉ name) (plain : '\\' ∉ name) :
    Counts (.quoted '\x60') (name ++ ['\x60']) 0 .bare := by
  induction name with
  | nil => exact counts_closing (by decide)
  | cons c rest ih =>
      rw [List.mem_cons, not_or] at inside plain
      exact (counts_inside (Ne.symm inside.1) (Ne.symm plain.1)).append (ih inside.2 plain.2)

theorem isQuote_of_isTokenChar (plain : isTokenChar c = true) : isQuote c = false ∧ c ≠ '?' := by
  constructor
  · refine Bool.eq_false_iff.2 fun quote => ?_
    have three : c = '\'' ∨ c = '"' ∨ c = '\x60' := by simpa [isQuote, or_assoc] using quote
    rcases three with rfl | rfl | rfl <;> cases plain
  · rintro rfl
    cases plain

/-- A placeholder counts, and no other token does. -/
theorem counts_of_readFrom {token : Token} (read : token.ReadFrom text)
    (plain : text.head? = some '\x60' → '\\' ∉ text) :
    Counts .bare text token.isPlaceholder.toNat .bare := by
  cases read with
  | placeholder => exact ⟨rfl, rfl⟩
  | plain other chars =>
      have none_ : token.isPlaceholder.toNat = text.count '?' := by
        rw [List.count_eq_zero_of_not_mem fun mark => (isQuote_of_isTokenChar (chars _ mark)).2 rfl]
        cases token <;> first | rfl | exact absurd rfl other
      rw [none_]
      exact counts_of_unquoted fun c inside => (isQuote_of_isTokenChar (chars c inside)).1
  | literal value opens tail =>
      refine (counts_opening ?_).append (counts_of_literalTail opens tail)
      rcases opens with rfl | rfl <;> rfl
  | name inside =>
      refine (counts_opening rfl).append (counts_of_name inside fun slash => ?_)
      exact plain rfl (List.mem_cons_of_mem _ (List.mem_append_left _ slash))

end

/-! ## Segments -/

/-- A part of a text: what stands in front of a token or of the end, or a token. -/
inductive Segment where
  | gap (text : List Char)
  | token (token : Token) (text : List Char)

namespace Segment

def text : Segment → List Char
  | .gap text => text
  | .token _ text => text

/-- How many placeholders a segment is. -/
def placeholders : Segment → Nat
  | .gap _ => 0
  | .token own _ => own.isPlaceholder.toNat

/-- How many question marks stand in comments. -/
def remarks : Segment → Nat
  | .gap text => text.count '?'
  | .token _ _ => 0

/-- The count does not go wrong about quotes: it finds none in a comment, and no backslash in a name
between grave accents. -/
def Harmless : Segment → Prop
  | .gap text => ∀ c ∈ text, isQuote c = false
  | .token _ text => text.head? = some '\x60' → '\\' ∉ text

end Segment

/-- The segments of a text, up to a character that starts no token. -/
def segments (text : List Char) : List Segment :=
  match start : skipTrivia .blank text with
  | [] => [.gap text]
  | c :: more =>
      .gap (before text (c :: more)) ::
        match found : scanToken (c :: more) with
        | .error _ => []
        | .ok (token, rest) =>
            have : rest.length < text.length := by
              have token := length_lt_of_scanToken found
              have trivia := length_skipTrivia_le .blank text
              rw [start] at trivia
              exact Nat.lt_of_lt_of_le token trivia
            .token token (before (c :: more) rest) :: segments rest
termination_by text.length

/-- How many question marks among segments count and are no placeholders. -/
def stray : Quoting → List Segment → Nat
  | _, [] => 0
  | quoting, segment :: rest =>
      countPlaceholders quoting segment.text - segment.placeholders +
        stray (quoting.across segment.text) rest

/-- How many placeholders among segments do not count. -/
def missed : Quoting → List Segment → Nat
  | _, [] => 0
  | quoting, segment :: rest =>
      segment.placeholders - countPlaceholders quoting segment.text +
        missed (quoting.across segment.text) rest

/-- How many placeholders there are among segments. -/
def placeholdersAmong : List Segment → Nat
  | [] => 0
  | segment :: rest => segment.placeholders + placeholdersAmong rest

theorem readFrom_of_mem_segments {text taken : List Char} {token : Token}
    (member : .token token taken ∈ segments text) : token.ReadFrom taken := by
  fun_induction segments text with
  | case1 => simp at member
  | case2 text c more front ih =>
      split at member
      · simp at member
      · rename_i found
        simp only [List.mem_cons, reduceCtorEq, false_or, Segment.token.injEq] at member
        rcases member with ⟨rfl, rfl⟩ | member
        · rcases readFrom_of_scanToken found with ⟨taken, same, read⟩
          rwa [same, before_append]
        · exact ih _ _ found member

/-- The segments make up the text, and their tokens are those of the text. -/
theorem segments_of_tokenizeFrom {text : List Char} {position : Nat} {tokens : List Located}
    (found : tokenizeFrom (Cursor.mk text position).skip = .ok tokens) :
    (segments text).flatMap Segment.text = text ∧
      placeholdersAmong (segments text) = placeholderCount tokens := by
  fun_induction segments text generalizing position tokens with
  | case1 text blank =>
      have done : (Cursor.mk text position).skip.rest = [] := blank
      rw [tokenizeFrom_nil done] at found
      cases found
      exact ⟨List.append_nil text, rfl⟩
  | case2 text c more front ih =>
      rw [tokenizeFrom_cons front, Cursor.rest_skip, front] at found
      split at found
      · cases found
      · rename_i token rest scanned
        rcases Outcome.map_eq_ok.1 found with ⟨further, onward, rfl⟩
        split
        · rename_i failed
          cases failed.symm.trans scanned
        · rename_i same
          cases same.symm.trans scanned
          rcases ih token rest scanned onward with ⟨joined, count⟩
          rcases exists_append_of_skipTrivia .blank text with ⟨skipped, split⟩
          rcases readFrom_of_scanToken scanned with ⟨taken, own, -⟩
          rw [front] at split
          constructor
          · rw [List.flatMap_cons, List.flatMap_cons, joined]
            simp only [Segment.text]
            rw [split, before_append, own, before_append]
          · rw [placeholdersAmong, placeholdersAmong, count]
            simp only [placeholderCount, List.countP_cons, Segment.placeholders]
            cases token.isPlaceholder <;> simp [Nat.add_comm]

/-- Segments are counted one after the other. -/
theorem countPlaceholders_flatMap (quoting : Quoting) (segments : List Segment) :
    countPlaceholders quoting (segments.flatMap Segment.text) + missed quoting segments =
      placeholdersAmong segments + stray quoting segments := by
  induction segments generalizing quoting with
  | nil => rfl
  | cons segment rest ih =>
      have own := (counts quoting segment.text).append (counts _ (rest.flatMap Segment.text))
      have later := ih (quoting.across segment.text)
      rw [List.flatMap_cons, own.counted, missed, stray, placeholdersAmong]
      omega

/-- In a harmless segment a placeholder counts, and so do the question marks of comments. -/
theorem counts_of_harmless {segment : Segment} (harmless : segment.Harmless)
    (read : ∀ token text, segment = .token token text → token.ReadFrom text) :
    Counts .bare segment.text (segment.placeholders + segment.remarks) .bare := by
  cases segment with
  | gap text =>
      have all := counts_of_unquoted harmless
      rw [← Nat.zero_add (text.count '?')] at all
      exact all
  | token token text => exact counts_of_readFrom (read token text rfl) harmless

/-- In harmless segments no placeholder is missed, and only comments have other question marks. -/
theorem missed_of_harmless {segments : List Segment}
    (harmless : ∀ segment ∈ segments, segment.Harmless)
    (read : ∀ token text, .token token text ∈ segments → token.ReadFrom text) :
    missed .bare segments = 0 ∧
      (stray .bare segments = 0 ↔ ∀ segment ∈ segments, segment.remarks = 0) := by
  induction segments with
  | nil => simp [missed, stray]
  | cons segment rest ih =>
      rw [List.forall_mem_cons] at harmless
      have own := counts_of_harmless harmless.1 fun token text same =>
        read token text (List.mem_cons.2 (.inl same.symm))
      have later := ih harmless.2 fun token text member =>
        read token text (List.mem_cons_of_mem _ member)
      rw [missed, stray, own.counted, own.across, later.1, List.forall_mem_cons, ← later.2]
      omega

/-- The count comes to the number of placeholder tokens exactly where it makes up for the tokens that
it misses by as many other question marks. Where comments have no quotes and no grave accents and
names between accents have no backslashes, this is so unless a comment has a question mark. -/
theorem countPlaceholders_eq_iff {text : String} {offset : Nat} {tokens : List Located}
    (found : tokenize text offset = .ok tokens) :
    let parts := segments text.toList
    parts.flatMap Segment.text = text.toList ∧
    (countPlaceholders .bare text.toList = placeholderCount tokens ↔
      stray .bare parts = missed .bare parts) ∧
    ((∀ part ∈ parts, part.Harmless) →
      (countPlaceholders .bare text.toList = placeholderCount tokens ↔
        ∀ gap, .gap gap ∈ parts → '?' ∉ gap)) := by
  intro parts
  rcases segments_of_tokenizeFrom found with ⟨whole, count⟩
  have balance := countPlaceholders_flatMap .bare parts
  rw [whole, count] at balance
  refine ⟨whole, by omega, fun harmless => ?_⟩
  have calm := missed_of_harmless harmless fun token taken member => readFrom_of_mem_segments member
  have silent : (∀ part ∈ parts, part.remarks = 0) ↔ ∀ gap, .gap gap ∈ parts → '?' ∉ gap := by
    constructor
    · exact fun none_ gap member => List.count_eq_zero.1 (none_ _ member)
    · intro none_ part member
      cases part with
      | gap gap => exact List.count_eq_zero.2 (none_ gap member)
      | token token text => rfl
  rw [← silent, ← calm.2]
  omega

/-- Of its question marks one stands in a name, one in a string literal, and one alone. -/
def askedInQuotes : String := "SELECT `Who?` FROM Foo WHERE A = 'it''s ?' AND B = ? -- end"

theorem countPlaceholders_eq_quoted :
    ∃ tokens, tokenize askedInQuotes 0 = .ok tokens ∧
      countPlaceholders .bare askedInQuotes.toList = placeholderCount tokens := by
  have accepted : (tokenize askedInQuotes 0).isOk = true := by decide +kernel
  have even : stray .bare (segments askedInQuotes.toList) =
      missed .bare (segments askedInQuotes.toList) := by
    decide +kernel
  rcases Outcome.exists_of_isOk accepted with ⟨tokens, found⟩
  exact ⟨tokens, found, (countPlaceholders_eq_iff found).2.1.2 even⟩

/-- A question mark in a comment counts. An apostrophe in a comment hides the placeholder behind it,
and so does a backslash at the end of a name. -/
theorem countPlaceholders_ne :
    ["SELECT Id FROM Foo -- why?", "SELECT Id FROM Foo -- it's\nWHERE Id = ?",
        "SELECT `a\\` FROM Foo WHERE Id = ?"].map
      (fun text => ((tokenize text 0).isOk, placeholdersIn text,
        countPlaceholders .bare text.toList)) =
      [(true, 0, 1), (true, 1, 0), (true, 1, 0)] := by
  decide +kernel

end RecordQuery.Sql
