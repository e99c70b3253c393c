import RecordQuery.Path.Scan
import RecordQuery.Proofs.Sql.Spans

/-!
# Where a block ends

Behind the name of a step, a block in brackets holds a condition. The end of the block is looked for
without reading the condition: brackets and quotes are counted character by character. So a block
ends behind its condition only where the count comes out even, and it does as long as quotes,
brackets and backslashes stand in no comment and in no name between grave accents.
-/

namespace RecordQuery.Path

/-! ## Counting brackets and quotes -/

/-- How deep in a block a character stands: in how many brackets, and in which quotes. -/
structure Depth where
  brackets : Nat
  quote : Option Char

namespace Depth

/-- In no brackets but those of the block, and in no quotes. -/
def outermost : Depth := ⟨0, none⟩

/-- Whether a character closes the block. -/
def closes (depth : Depth) (c : Char) : Bool :=
  c == ']' && depth.quote.isNone && depth.brackets == 0

/-- The depth behind a character that does not close the block. -/
def behind (depth : Depth) (c : Char) : Depth where
  brackets :=
    if depth.quote.isNone && c == '[' then depth.brackets + 1
    else if depth.quote.isNone && c == ']' then depth.brackets - 1
    else depth.brackets
  quote :=
    if depth.quote == some c then none
    else if depth.quote.isNone && (c == '\'' || c == '"') then some c
    else depth.quote

/-- The depth behind a text, unless the text closes the block or ends amid an escape. -/
def across (depth : Depth) : List Char → Option Depth
  | [] => some depth
  | c :: rest =>
      if c == '\\' then
        match rest with
        | [] => none
        | _ :: rest => depth.across rest
      else if depth.closes c then none
      else (depth.behind c).across rest

variable {depth middle : Depth} {c : Char} {text : List Char}

/-- A backslash hides the character behind it. -/
theorem across_escape (escape : (c == '\\') = true) (hidden : Char) (rest : List Char) :
    depth.across (c :: hidden :: rest) = depth.across rest := by
  rw [across, if_pos escape]

theorem across_cons (plain : ¬(c == '\\') = true) (inside : ¬depth.closes c = true)
    (rest : List Char) : depth.across (c :: rest) = (depth.behind c).across rest := by
  rw [across.eq_def]
  exact (if_neg plain).trans (if_neg inside)

/-- The depth behind two texts is the depth behind the second from the one behind the first on. -/
theorem across_append (first : depth.across text = some middle) (more : List Char) :
    depth.across (text ++ more) = middle.across more := by
  fun_induction across depth text with
  | case1 depth =>
      cases first
      rfl
  | case2 => cases first
  | case3 depth c escape hidden rest ih =>
      exact (across_escape escape hidden (rest ++ more)).trans (ih first)
  | case4 => cases first
  | case5 depth c rest plain inside ih =>
      exact (across_cons plain inside (rest ++ more)).trans (ih first)

end Depth

/-- Whether a character counts where the end of a block is looked for. -/
def isMark (c : Char) : Bool := c == '\\' || c == '\'' || c == '"' || c == '[' || c == ']'

theorem isMark_eq_false {c : Char} (unmarked : isMark c = false) :
    c ≠ '\\' ∧ c ≠ '\'' ∧ c ≠ '"' ∧ c ≠ '[' ∧ c ≠ ']' := by
  simpa [isMark, and_assoc] using unmarked

/-- Outside quotes, a text without marks leaves the depth alone. -/
theorem Depth.across_of_unmarked {text : List Char}
    (unmarked : ∀ c ∈ text, isMark c = false) : outermost.across text = some outermost := by
  induction text with
  | nil => rfl
  | cons c rest ih =>
      rcases isMark_eq_false (unmarked c List.mem_cons_self) with
        ⟨escape, single, double, opening, closing⟩
      have stays : outermost.behind c = outermost := by
        simp [behind, outermost, single, double, opening, closing]
      rw [across_cons (by simpa using escape) (by simp [closes, closing]), stays]
      exact ih fun c inside => unmarked c (List.mem_cons_of_mem _ inside)

/-- A text that brackets and quotes leave as deep as they found it, and that does not close the
block before its end. -/
def Enclosed (text : List Char) : Prop := Depth.outermost.across text = some .outermost

/-! ## The end of a block -/

section

variable {depth middle : Depth} {c : Char} {text after last : List Char}

theorem readBlock_escape (escape : (c == '\\') = true) (hidden : Char) (rest : List Char) :
    readBlock depth.brackets depth.quote (c :: hidden :: rest) =
      (readBlock depth.brackets depth.quote rest).map fun (inner, after) =>
        (c :: hidden :: inner, after) := by
  rw [readBlock, if_pos escape]

theorem readBlock_cons (plain : ¬(c == '\\') = true) (inside : ¬depth.closes c = true)
    {rest : List Char} (more : rest ≠ []) :
    readBlock depth.brackets depth.quote (c :: rest) =
      (readBlock (depth.behind c).brackets (depth.behind c).quote rest).map fun (inner, after) =>
        (c :: inner, after) := by
  rcases List.exists_cons_of_ne_nil more with ⟨next, rest, rfl⟩
  rw [readBlock, if_neg plain]
  exact if_neg inside

theorem readBlock_close (closed : depth.closes c = true) (rest : List Char) :
    readBlock depth.brackets depth.quote (c :: rest) = some ([], rest) := by
  have bracket : c = ']' := by
    rw [Depth.closes, Bool.and_eq_true, Bool.and_eq_true, beq_iff_eq] at closed
    exact closed.1.1
  subst bracket
  cases rest with
  | nil =>
      rw [readBlock]
      exact if_pos closed
  | cons next rest =>
      rw [readBlock, if_neg (by decide)]
      exact if_pos closed

/-- The end of a block is looked for behind a text from the depth there on. -/
theorem readBlock_append (first : depth.across text = some middle) {more : List Char}
    (onward : more ≠ []) :
    readBlock depth.brackets depth.quote (text ++ more) =
      (readBlock middle.brackets middle.quote more).map fun (inner, after) =>
        (text ++ inner, after) := by
  have joins (front text : List Char) (found : Option (List Char × List Char)) :
      (found.map fun (inner, after) => (text ++ inner, after)).map
          (fun (inner, after) => (front ++ inner, after)) =
        found.map fun (inner, after) => (front ++ text ++ inner, after) := by
    cases found <;> simp
  fun_induction Depth.across depth text with
  | case1 depth =>
      cases first
      simp
  | case2 => cases first
  | case3 depth c escape hidden rest ih =>
      rw [List.cons_append, List.cons_append, readBlock_escape escape, ih first]
      exact joins [c, hidden] rest _
  | case4 => cases first
  | case5 depth c rest plain inside ih =>
      rw [List.cons_append, readBlock_cons plain inside (by simp [onward]), ih first]
      exact joins [c] rest _

/-- A block that holds a text up to some bracket has counted it out. -/
theorem across_of_readBlock
    (found : readBlock depth.brackets depth.quote (text ++ ']' :: after) = some (text, last)) :
    depth.across text = some .outermost := by
  fun_induction Depth.across depth text with
  | case1 depth =>
      by_cases closed : depth.closes ']' = true
      · rw [Depth.closes, beq_self_eq_true, Bool.true_and, Bool.and_eq_true,
          Option.isNone_iff_eq_none, beq_iff_eq] at closed
        rcases depth with ⟨brackets, quote⟩
        rcases closed with ⟨rfl, rfl⟩
        rfl
      · cases after with
        | nil =>
            rw [List.nil_append, readBlock] at found
            cases (if_neg closed).symm.trans found
        | cons next after =>
            rw [List.nil_append, readBlock_cons (by decide) closed (by simp),
              Option.map_eq_some_iff] at found
            rcases found with ⟨_, -, same⟩
            cases same
  | case2 depth c escape =>
      rw [List.singleton_append, readBlock_escape escape, Option.map_eq_some_iff] at found
      rcases found with ⟨_, -, same⟩
      cases same
  | case3 depth c escape hidden rest ih =>
      rw [List.cons_append, List.cons_append, readBlock_escape escape,
        Option.map_eq_some_iff] at found
      rcases found with ⟨⟨inner, final⟩, behind, same⟩
      cases same
      exact ih behind
  | case4 depth c rest plain closed =>
      rw [List.cons_append, readBlock_close closed] at found
      cases found
  | case5 depth c rest plain inside ih =>
      rw [List.cons_append, readBlock_cons plain inside (by simp), Option.map_eq_some_iff] at found
      rcases found with ⟨⟨inner, final⟩, behind, same⟩
      cases same
      exact ih behind

/-- A block holds a text up to the bracket behind it exactly where the text is enclosed. -/
theorem readBlock_eq_some_iff :
    readBlock 0 none (text ++ ']' :: after) = some (text, after) ↔ Enclosed text := by
  constructor
  · exact fun found => @across_of_readBlock .outermost text after after found
  · intro enclosed
    have whole := readBlock_append enclosed (List.cons_ne_nil ']' after)
    have closed : Depth.outermost.closes ']' = true := rfl
    rw [readBlock_close closed, Option.map_some] at whole
    dsimp only at whole
    rw [List.append_nil] at whole
    exact whole

end

/-! ## The tokens of a block -/

open Sql

/-- The characters of a text in front of an end of it. -/
def before (text rest : List Char) : List Char := text.take (text.length - rest.length)

theorem before_append (taken rest : List Char) : before (taken ++ rest) rest = taken := by
  rw [before, List.length_append, Nat.add_sub_cancel, List.take_left]

/-- The characters of a text that the tokens do not show: blanks, comments, and names between grave
accents. -/
def hidden (text : List Char) : List Char :=
  match start : skipTrivia .blank text with
  | [] => text
  | c :: more =>
      before text (c :: more) ++
        match found : scanToken (c :: more) with
        | .error _ => []
        | .ok (_, rest) =>
            have : rest.length < text.length := by
              have token := length_lt_of_scanToken found
              have trivia := length_skipTrivia_le .blank text
              rw [start] at trivia
              exact Nat.lt_of_lt_of_le token trivia
            (if c == '\x60' then before (c :: more) rest else []) ++ hidden rest
termination_by text.length

theorem exists_append_of_skipTrivia (gap : Gap) (text : List Char) :
    ∃ skipped, text = skipped ++ skipTrivia gap text := by
  fun_induction skipTrivia gap text with
  | case1 => exact ⟨[], rfl⟩
  | case2 c rest ih | case4 c rest _ ih | case7 c rest _ _ _ ih =>
      rcases ih with ⟨skipped, same⟩
      exact ⟨c :: skipped, congrArg (c :: ·) same⟩
  | case3 rest ih | case5 rest ih | case6 rest ih =>
      rcases ih with ⟨skipped, same⟩
      exact ⟨_ :: _ :: skipped, congrArg (_ :: _ :: ·) same⟩
  | case8 c rest => exact ⟨[], rfl⟩

/-! ### String literals -/

section

variable {quote : Char}

/-- Between quotes, any other character leaves the depth alone. -/
theorem across_quoted {c : Char} (plain : ¬(c == '\\') = true) (other : ¬(c == quote) = true)
    (rest : List Char) :
    (⟨0, some quote⟩ : Depth).across (c :: rest) = (⟨0, some quote⟩ : Depth).across rest := by
  have stays : (⟨0, some quote⟩ : Depth).behind c = ⟨0, some quote⟩ := by
    have differ : quote ≠ c := fun same => other (by simp [same])
    simp [Depth.behind, differ]
  rw [Depth.across_cons plain (by simp [Depth.closes]), stays]

/-- The quote that opened a literal closes it. -/
theorem across_closing (opens : quote = '\'' ∨ quote = '"') (rest : List Char) :
    (⟨0, some quote⟩ : Depth).across (quote :: rest) = Depth.outermost.across rest := by
  have outside : (⟨0, some quote⟩ : Depth).behind quote = .outermost := by
    simp [Depth.behind, Depth.outermost]
  have plain : ¬(quote == '\\') = true := by rcases opens with rfl | rfl <;> decide
  rw [Depth.across_cons plain (by simp [Depth.closes]), outside]

/-- A quote outside of literals opens one. -/
theorem across_opening (opens : quote = '\'' ∨ quote = '"') (rest : List Char) :
    Depth.outermost.across (quote :: rest) = (⟨0, some quote⟩ : Depth).across rest := by
  rcases opens with rfl | rfl <;> exact Depth.across_cons (by decide) (by decide) rest

/-- A literal is left behind the quote that closes it. A quote that is written twice leaves it and
opens it again. -/
theorem across_of_literalTail (opens : quote = '\'' ∨ quote = '"') {text : List Char}
    (tail : LiteralTail quote text) : (⟨0, some quote⟩ : Depth).across text = some .outermost := by
  induction tail with
  | close => exact across_closing opens []
  | twice behind ih => rw [across_closing opens, across_opening opens, ih]
  | escape hidden behind ih => exact (Depth.across_escape rfl hidden _).trans ih
  | other notQuote notEscape behind ih =>
      exact (across_quoted (by simpa using notEscape) (by simpa using notQuote) _).trans ih

end

/-! ### Other tokens -/

theorem unmarked_of_isTokenChar {c : Char} (plain : isTokenChar c = true) : isMark c = false := by
  refine Bool.eq_false_iff.2 fun mark => ?_
  have five : c = '\\' ∨ c = '\'' ∨ c = '"' ∨ c = '[' ∨ c = ']' := by
    simpa [isMark, or_assoc] using mark
  rcases five with rfl | rfl | rfl | rfl | rfl <;> cases plain

/-- Every token but a name between grave accents is enclosed. -/
theorem enclosed_of_scanToken {c : Char} {text rest : List Char} {token : Token}
    (found : scanToken (c :: text) = .ok (token, rest)) :
    ∃ taken, c :: text = taken ++ rest ∧ ((c == '\x60') = false → Enclosed taken) := by
  rcases readFrom_of_scanToken found with ⟨taken, same, read⟩
  refine ⟨taken, same, fun other => ?_⟩
  cases read with
  | placeholder =>
      refine Depth.across_of_unmarked fun c inside => ?_
      cases List.mem_singleton.1 inside
      rfl
  | plain _ chars =>
      exact Depth.across_of_unmarked fun c inside => unmarked_of_isTokenChar (chars c inside)
  | literal value opens tail =>
      exact (across_opening opens _).trans (across_of_literalTail opens tail)
  | name inside =>
      cases same
      cases other

/-! ### Whole conditions -/

theorem Enclosed.append {first second : List Char} (front : Enclosed first)
    (back : Enclosed second) : Enclosed (first ++ second) :=
  (Depth.across_append front second).trans back

/-- A text of tokens is enclosed as long as what they do not show has no marks. -/
theorem enclosed_of_tokenizeFrom {text : List Char} {position : Nat} {tokens : List Located}
    (found : tokenizeFrom (Cursor.mk text position).skip = .ok tokens)
    (unmarked : ∀ c ∈ hidden text, isMark c = false) : Enclosed text := by
  fun_induction hidden text generalizing position tokens with
  | case1 text blank => exact Depth.across_of_unmarked unmarked
  | case2 text c more front ih =>
      rw [tokenizeFrom_cons front, Cursor.rest_skip, front] at found
      split at found
      · cases found
      · rename_i token rest scanned
        rcases Outcome.map_eq_ok.1 found with ⟨further, onward, -⟩
        split at unmarked
        · rename_i failed
          cases failed.symm.trans scanned
        · rename_i same
          cases same.symm.trans scanned
          simp only [List.mem_append] at unmarked
          have behind : Enclosed rest := ih token rest scanned onward fun d inside =>
            unmarked d (.inr (.inr inside))
          -- The trivia in front of the token.
          rcases exists_append_of_skipTrivia .blank text with ⟨skipped, split⟩
          rw [front] at split
          have trivia : Enclosed skipped := Depth.across_of_unmarked fun d inside => by
            refine unmarked d (.inl ?_)
            rwa [split, before_append]
          -- The token itself.
          rcases enclosed_of_scanToken scanned with ⟨taken, same, enclosed⟩
          have own : Enclosed taken := by
            cases accent : c == '\x60' with
            | false => exact enclosed accent
            | true =>
                refine Depth.across_of_unmarked fun d inside => unmarked d (.inr (.inl ?_))
                rwa [if_pos accent, same, before_append]
          rw [split, same]
          exact trivia.append (own.append behind)

/-- The text of a condition is enclosed as long as quotes, brackets and backslashes stand in no
comment and in no name between grave accents. -/
theorem enclosed_of_parseCriteria {text : String} {offset : Nat} {expr : Expr}
    (found : parseCriteria text offset = .ok expr)
    (unmarked : ∀ c ∈ hidden text.toList, isMark c = false) : Enclosed text.toList := by
  rcases Outcome.bind_eq_ok.1 found with ⟨tokens, tokenized, -⟩
  exact enclosed_of_tokenizeFrom tokenized unmarked

end RecordQuery.Path
