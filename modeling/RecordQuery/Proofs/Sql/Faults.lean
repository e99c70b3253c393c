import RecordQuery.Proofs.Sql.Numbering
import RecordQuery.Proofs.Sql.Rules
import RecordQuery.Proofs.Sql.Standing

/-!
# Faults of statements and conditions

A reader of tokens fails by showing a token that it met, and the end of the input is never taken, so
there is always one to show. Hence a text is refused either for characters that are no token or for
a token of its own, each at its position.
-/

namespace RecordQuery.Sql

open Outcome

/-! ## Tokens that are left -/

/-- Some of the tokens of a text are left, with the end of the input among them. -/
structure Remains (all tokens : List Located) : Prop where
  suffix : tokens <:+ all
  ended : ∃ located ∈ tokens, located.token = .endOfInput

/-- The error shows one of some tokens at its position. -/
def ShowsToken (all : List Located) (error : QueryError) : Prop :=
  ∃ fault, ∃ located ∈ all, error = .locatedAt fault located.token.describe located.position

/-- A reader leaves the end of the input, or fails by showing one of the tokens. -/
def ReadsWithin {α : Type} {tokens : List Located} (all : List Located)
    (read : QueryResult (Parsed α tokens)) : Prop :=
  Yields (ShowsToken all) (fun parsed => Remains all parsed.rest) read

namespace Remains

variable {all tokens rest : List Located} {located : Located}

/-- Any token but the end of the input can be taken. -/
theorem tail (remains : Remains all (located :: rest)) (more : located.token ≠ .endOfInput) :
    Remains all rest := by
  rcases remains with ⟨suffix, last, inside, ended⟩
  refine ⟨(List.suffix_cons ..).trans suffix, last, ?_, ended⟩
  rcases List.mem_cons.1 inside with rfl | inside
  · exact absurd ended more
  · exact inside

theorem mem (remains : Remains all (located :: rest)) : located ∈ all :=
  remains.suffix.subset List.mem_cons_self

theorem showsToken (remains : Remains all tokens) (fault : SyntaxFault) :
    ShowsToken all (faultAt fault tokens) := by
  rcases tokens with _ | ⟨⟨token, position⟩, rest⟩
  · rcases remains.ended with ⟨_, inside, -⟩
    cases inside
  · exact ⟨fault, _, remains.mem, rfl⟩

theorem expect (remains : Remains all tokens) (wanted : Token) (more : wanted ≠ .endOfInput) :
    Yields (ShowsToken all) (fun behind => Remains all behind.1) (expect wanted tokens) := by
  unfold Sql.expect
  split
  · split
    · rename_i same
      exact remains.tail (same ▸ more)
    · exact remains.showsToken _
  · exact remains.showsToken _

theorem expectIdentifier (remains : Remains all tokens) :
    Yields (ShowsToken all) (fun found => Remains all found.2.1) (expectIdentifier tokens) := by
  unfold Sql.expectIdentifier
  split
  · exact remains.tail nofun
  · exact remains.showsToken _

end Remains

/-! ## Readers of expressions -/

section Operands

variable {all tokens : List Located}

theorem reads_castAt {operand : Parsed Expr tokens} (remains : Remains all operand.rest) :
    ReadsWithin all (castAt operand) := by
  unfold castAt
  split
  · rename_i next
    rw [next] at remains
    exact (remains.tail nofun).expectIdentifier.bind fun _ _ behind => behind
  · exact remains

theorem ne_endOfInput_of_compareOp? {token : Token} {op : CompareOp}
    (compares : compareOp? token = some op) : token ≠ .endOfInput := by
  rintro rfl
  cases compares

end Operands

-- The recursion is that of the readers themselves, so the measures are theirs too.
mutual
theorem reads_disjunction {all tokens : List Located} (remains : Remains all tokens)
    (before : Option Expr) (n : Nat) : ReadsWithin all (disjunction before tokens n) := by
  rw [disjunction]
  refine (reads_conjunction remains none n).bind fun operand _ behind => ?_
  dsimp only
  split
  · rename_i position rest next
    have less := operand.length_lt_of_rest next
    rw [next] at behind
    exact (reads_disjunction (behind.tail nofun) _ _).bind fun _ _ whole => whole
  · exact behind
termination_by 7 * tokens.length + 4

theorem reads_conjunction {all tokens : List Located} (remains : Remains all tokens)
    (before : Option Expr) (n : Nat) : ReadsWithin all (conjunction before tokens n) := by
  rw [conjunction]
  refine (reads_negation remains n).bind fun operand _ behind => ?_
  dsimp only
  split
  · rename_i position rest next
    have less := operand.length_lt_of_rest next
    rw [next] at behind
    exact (reads_conjunction (behind.tail nofun) _ _).bind fun _ _ whole => whole
  · exact behind
termination_by 7 * tokens.length + 3

theorem reads_negation {all tokens : List Located} (remains : Remains all tokens) (n : Nat) :
    ReadsWithin all (negation tokens n) := by
  rw [negation.eq_def]
  split
  · exact (reads_negation (remains.tail nofun) n).bind fun _ _ behind => behind
  · exact reads_comparison remains n
termination_by 7 * tokens.length + 2

theorem reads_comparison {all tokens : List Located} (remains : Remains all tokens) (n : Nat) :
    ReadsWithin all (comparison tokens n) := by
  rw [comparison]
  refine (reads_primary remains n).bind fun left _ behind => ?_
  dsimp only
  split
  case h_1 next =>
    rw [next] at behind
    have further := (behind.tail nofun).tail nofun
    exact (further.expect (.keyword .null) nofun).bind fun _ _ after => after
  case h_2 next =>
    rw [next] at behind
    exact ((behind.tail nofun).expect (.keyword .null) nofun).bind fun _ _ after => after
  case h_3 next =>
    have less := Nat.lt_of_succ_lt (left.length_lt_of_rest next)
    rw [next] at behind
    exact (reads_listInParens ((behind.tail nofun).tail nofun) _).bind fun _ _ items => items
  case h_4 next =>
    have less := left.length_lt_of_rest next
    rw [next] at behind
    exact (reads_listInParens (behind.tail nofun) _).bind fun _ _ items => items
  case h_5 next =>
    have less := left.length_lt_of_rest next
    split
    · rename_i compares
      rw [next] at behind
      exact (reads_primary (behind.tail (ne_endOfInput_of_compareOp? compares)) _).bind
        fun _ _ right => right
    · exact behind
  case h_6 => exact behind
termination_by 7 * tokens.length + 1

theorem reads_listInParens {all tokens : List Located} (remains : Remains all tokens) (n : Nat) :
    ReadsWithin all (listInParens tokens n) := by
  rw [listInParens]
  refine (remains.expect (.symbol .leftParen) nofun).bind fun ⟨inner, opened⟩ _ within => ?_
  refine (reads_expressions within n).bind fun items _ behind => ?_
  exact (behind.expect (.symbol .rightParen) nofun).bind fun _ _ after => after
termination_by 7 * tokens.length + 0

theorem reads_expressions {all tokens : List Located} (remains : Remains all tokens) (n : Nat) :
    ReadsWithin all (expressions tokens n) := by
  rw [expressions]
  refine (reads_disjunction remains none n).bind fun first _ behind => ?_
  dsimp only
  split
  · rename_i position rest next
    have less := first.length_lt_of_rest next
    rw [next] at behind
    exact (reads_expressions (behind.tail nofun) _).bind fun _ _ others => others
  · exact behind
termination_by 7 * tokens.length + 5

theorem reads_arguments {all tokens : List Located} (remains : Remains all tokens) (n : Nat) :
    ReadsWithin all (arguments tokens n) := by
  rw [arguments]
  refine (reads_argument remains n).bind fun first _ behind => ?_
  dsimp only
  split
  · rename_i position rest next
    have less := first.length_lt_of_rest next
    rw [next] at behind
    exact (reads_arguments (behind.tail nofun) _).bind fun _ _ others => others
  · exact behind
termination_by 7 * tokens.length + 6

theorem reads_argument {all tokens : List Located} (remains : Remains all tokens) (n : Nat) :
    ReadsWithin all (argument tokens n) := by
  rw [argument.eq_def]
  split
  · exact reads_castAt (remains.tail nofun)
  · exact (reads_disjunction remains none n).bind fun _ _ behind => reads_castAt behind
termination_by 7 * tokens.length + 5

theorem reads_primary {all tokens : List Located} (remains : Remains all tokens) (n : Nat) :
    ReadsWithin all (primary tokens n) := by
  rw [primary.eq_def]
  split
  case h_1 | h_2 | h_4 | h_5 | h_6 | h_7 | h_8 | h_13 => exact remains.tail nofun
  case h_3 =>
    have behind := remains.tail nofun
    split
    · exact behind.tail nofun
    · exact behind.tail nofun
    · exact behind.showsToken _
  case h_9 =>
    refine (reads_disjunction (remains.tail nofun) none n).bind fun whole _ behind => ?_
    exact (behind.expect (.symbol .rightParen) nofun).bind fun _ _ after => after
  case h_10 => exact ((remains.tail nofun).tail nofun).tail nofun
  case h_11 =>
    refine (reads_arguments ((remains.tail nofun).tail nofun) n).bind fun args _ behind => ?_
    exact (behind.expect (.symbol .rightParen) nofun).bind fun _ _ after => after
  case h_12 =>
    exact ((remains.tail nofun).tail nofun).expectIdentifier.bind fun _ _ after => after
  case h_14 => exact remains.showsToken _
termination_by 7 * tokens.length + 0
end

/-! ## Readers of SELECT -/

theorem reads_column {all tokens : List Located} (remains : Remains all tokens) (n : Nat) :
    ReadsWithin all (column tokens n) := by
  rw [column.eq_def]
  split
  · exact remains.tail (by simp)
  · refine (reads_primary remains n).bind fun operand _ behind => ?_
    dsimp only
    split
    · rename_i next
      rw [next] at behind
      exact (behind.tail (by simp)).expectIdentifier.bind fun _ _ after => after
    · rename_i next
      rw [next] at behind
      exact behind.tail (by simp)
    · exact behind

theorem reads_columns {all tokens : List Located} (remains : Remains all tokens) (n : Nat) :
    ReadsWithin all (columns tokens n) := by
  rw [columns]
  refine (reads_column remains n).bind fun first _ behind => ?_
  dsimp only
  split
  · rename_i position rest next
    have less := first.length_lt_of_rest next
    rw [next] at behind
    exact (reads_columns (behind.tail nofun) _).bind fun _ _ others => others
  · exact behind
termination_by tokens.length

section Clauses

variable {α : Type} {all tokens : List Located} {before : Parsed α tokens}

theorem reads_filterAt (remains : Remains all before.rest) :
    Yields (ShowsToken all)
      (fun parsed => Remains all parsed.rest ∧ parsed.value.1 = before.value)
      (filterAt before) := by
  unfold filterAt
  split
  · rename_i next
    rw [next] at remains
    exact (reads_disjunction (remains.tail nofun) none _).bind fun _ _ behind => ⟨behind, rfl⟩
  · exact ⟨remains, rfl⟩

theorem reads_limitAt (remains : Remains all before.rest) :
    Yields (ShowsToken all)
      (fun parsed => Remains all parsed.rest ∧ parsed.value.1 = before.value)
      (limitAt before) := by
  unfold limitAt
  split
  · rename_i next
    rw [next] at remains
    exact ⟨(remains.tail nofun).tail nofun, rfl⟩
  · rename_i next
    rw [next] at remains
    exact (remains.tail nofun).showsToken _
  · exact ⟨remains, rfl⟩

theorem reads_skipLabel (remains : Remains all before.rest) :
    Yields (ShowsToken all) (fun parsed => Remains all parsed.rest ∧ parsed.value = before.value)
      (skipLabel before) := by
  unfold skipLabel
  split
  · rename_i next
    rw [next] at remains
    exact (remains.tail nofun).expectIdentifier.bind fun _ _ behind => ⟨behind, rfl⟩
  · rename_i next
    rw [next] at remains
    exact ⟨remains.tail nofun, rfl⟩
  · exact ⟨remains, rfl⟩

end Clauses

/-- The table that a SELECT reads from is named by a token, at the position of its source. -/
def Select.Named (named : Located → Prop) (select : Select) : Prop :=
  ∀ name, select.source = .table name → named ⟨.identifier name, select.sourceOffset⟩

mutual
theorem reads_select {all tokens : List Located} (remains : Remains all tokens) (n : Nat) :
    Yields (ShowsToken all)
      (fun parsed => Remains all parsed.rest ∧ parsed.value.Named (· ∈ all))
      (select tokens n) := by
  rw [select.eq_def]
  refine (remains.expect (.keyword .select) nofun).bind fun ⟨start, opened⟩ _ within => ?_
  refine (reads_columns within n).bind fun columns _ behind => ?_
  refine (behind.expect (.keyword .from_) nofun).bind fun ⟨from_, further⟩ _ after => ?_
  have less : from_.length < tokens.length :=
    Nat.lt_trans further (Nat.lt_trans columns.shorter opened)
  refine (reads_source after columns.placeholders).bind fun origin _ ⟨rest, front⟩ => ?_
  -- The clauses behind the source hand it on as it is.
  refine (reads_filterAt rest).bind fun filtered _ ⟨rest, own⟩ => ?_
  refine (reads_limitAt rest).bind fun limited _ ⟨rest, kept⟩ => ⟨rest, fun name table => ?_⟩
  have named : origin.value = .table name := own ▸ kept ▸ table
  rcases front name named with ⟨position, others, rfl⟩
  exact after.mem
termination_by 7 * tokens.length + 1

/-- A source that is a table is the token at the front. -/
theorem reads_source {all tokens : List Located} (remains : Remains all tokens) (n : Nat) :
    Yields (ShowsToken all)
      (fun parsed => Remains all parsed.rest ∧
        ∀ name, parsed.value = .table name →
          ∃ position rest, tokens = ⟨.identifier name, position⟩ :: rest)
      (source tokens n) := by
  rw [source.eq_def]
  split
  · refine (reads_select (remains.tail nofun) n).bind fun nested _ ⟨behind, _⟩ => ?_
    refine (behind.expect (.symbol .rightParen) nofun).bind fun ⟨rest, closed⟩ _ after => ?_
    refine (reads_skipLabel after).mono (fun _ shown => shown) fun parsed _ ⟨rest, same⟩ => ?_
    exact ⟨rest, fun name table => nomatch same.symm.trans table⟩
  · refine remains.expectIdentifier.bind fun ⟨name, behind⟩ found rest => ⟨rest, ?_⟩
    rintro _ ⟨⟩
    rcases expectIdentifier_eq_ok found with ⟨position, front⟩
    exact ⟨position, behind.1, front⟩
termination_by 7 * tokens.length + 0
end

theorem yields_expectEnd {all tokens : List Located} (remains : Remains all tokens) :
    Yields (ShowsToken all) (fun _ => True) (expectEnd tokens) := by
  unfold expectEnd
  split
  · trivial
  · trivial
  · exact remains.showsToken _

/-! ## Whole texts -/

/-- The token is one of a text whose first character has the position `offset`, and starts at its
position there. -/
structure Located.TokenOf (located : Located) (text : String) (offset : Nat) : Prop where
  member : ∃ tokens, tokenize text offset = .ok tokens ∧ located ∈ tokens
  startsIn : located.StartsIn text.toList offset

/-- The error shows a syntax fault of a text in a statement: by characters of the statement, or by a
token of the text. -/
def ShownIn (statement : List Char) (text : String) (offset : Nat) (error : QueryError) : Prop :=
  Quotes statement error ∨ ∃ (fault : SyntaxFault) (located : Located),
    located.TokenOf text offset ∧
      error = .locatedAt fault located.token.describe located.position

variable {α : Type} {text : String} {offset : Nat} {statement : List Char} {good : α → Prop}

/-- What fails by showing a token of a text fails by showing a fault of the text. -/
theorem yields_tokenize {read : List Located → QueryResult α}
    (stands : text.toList <+: statement.drop offset)
    (reads : ∀ tokens, (∀ located ∈ tokens, located.TokenOf text offset) → Remains tokens tokens →
      Yields (ShowsToken tokens) good (read tokens)) :
    Yields (ShownIn statement text offset) good (tokenize text offset >>= read) := by
  have tokenizes := yields_tokenizeFrom (Cursor.In.start text offset).skip stands
  refine (tokenizes.mono (fun _ => .inl) fun _ _ good => good).bind
    fun tokens found ⟨start, ended⟩ => ?_
  have own (located : Located) (inside : located ∈ tokens) : located.TokenOf text offset :=
    ⟨⟨tokens, found, inside⟩, start located inside⟩
  refine (reads tokens own ⟨List.suffix_refl tokens, ended⟩).mono ?_ fun _ _ good => good
  rintro _ ⟨fault, located, inside, rfl⟩
  exact .inr ⟨fault, located, own located inside, rfl⟩

/-- A condition is refused for a fault of its own text. -/
theorem yields_parseCriteria (stands : text.toList <+: statement.drop offset) :
    Yields (ShownIn statement text offset) (fun _ => True) (parseCriteria text offset) := by
  refine yields_tokenize stands fun tokens _ remains => ?_
  refine (reads_disjunction remains none 0).bind fun whole _ behind => ?_
  exact (yields_expectEnd behind).bind fun _ _ done => done

/-- A selection is refused for a fault of its own text. -/
theorem yields_parseSelection (text : String) :
    Yields (ShownIn text.toList text 0) (Select.Named (·.TokenOf text 0))
      (parseSelection text) := by
  refine yields_tokenize (List.prefix_refl _) fun tokens own remains => ?_
  split
  · refine (reads_select remains 0).bind fun whole _ ⟨behind, named⟩ => ?_
    refine (yields_expectEnd ?_).bind fun _ _ _ name table => own _ (named name table)
    split
    · rename_i next
      rw [next] at behind
      exact behind.tail nofun
    · exact behind
  · exact remains.showsToken _

/-- A statement that registers no type is refused for a fault of its own text. -/
theorem yields_parseSelect
    (select : ∀ rest, (Cursor.start text 0).next ≠ .ok (.keyword .register, rest)) :
    Yields (ShownIn text.toList text 0) (Select.Named (·.TokenOf text 0)) (parseSelect text) := by
  have first : Yields (ShownIn text.toList text 0) (fun _ => True) (Cursor.start text 0).next := by
    have inside := (Cursor.In.start text 0).skip
    unfold Cursor.next
    dsimp only
    split
    · trivial
    · rename_i fault scanned
      refine .inl (quotes_fragment _ _ ?_ (inside.goesOn (List.prefix_refl _)))
      intro done
      rw [done] at scanned
      cases scanned
  have parsed : Yields (ShownIn text.toList text 0)
      (fun statement => ∃ found, statement = .select found ∧ found.Named (·.TokenOf text 0))
      (parseStatement text) := by
    refine first.bind fun ⟨token, rest⟩ found _ => ?_
    dsimp only
    split
    · rename_i register
      exact absurd (beq_iff_eq.1 register ▸ found) (select rest)
    · exact (yields_parseSelection text).bind fun found _ named => ⟨found, rfl, named⟩
  refine parsed.bind ?_
  rintro _ - ⟨found, rfl, named⟩
  exact named

end RecordQuery.Sql
