import Mathlib.Data.List.Range
import RecordQuery.Proofs.Outcome
import RecordQuery.Sql.Grammar

/-!
# The numbers of placeholders

A reader of tokens numbers the placeholders that it meets. The main statements say that every
reader takes tokens from the front, that the placeholders of what it reads carry consecutive
numbers in the order of the text, and that it meets every placeholder token once.
-/

namespace RecordQuery.Sql

/-! ## Placeholders of expressions and statements -/

mutual
/-- The numbers of the placeholders of an expression, in the order of the text. -/
def Expr.placeholders : Expr → List Nat
  | .placeholder index => [index]
  | .binary _ left right => left.placeholders ++ right.placeholders
  | .not operand | .isNull operand | .isNotNull operand => operand.placeholders
  | .inList operand items _ => operand.placeholders ++ placeholdersOf items
  | .call _ args => placeholdersOf args
  | _ => []

/-- The numbers of the placeholders of expressions, one after the other. -/
def placeholdersOf : List Expr → List Nat
  | [] => []
  | expr :: rest => expr.placeholders ++ placeholdersOf rest
end

theorem placeholdersOf_append (first second : List Expr) :
    placeholdersOf (first ++ second) = placeholdersOf first ++ placeholdersOf second := by
  induction first with
  | nil => rfl
  | cons expr rest ih =>
      rw [List.cons_append, placeholdersOf, placeholdersOf, ih, List.append_assoc]

@[simp] theorem placeholdersOf_singleton (expr : Expr) :
    placeholdersOf [expr] = expr.placeholders := by
  rw [placeholdersOf, placeholdersOf, List.append_nil]

/-- The numbers of the placeholders of an entry of a column list. -/
def Column.placeholders : Column → List Nat
  | .star | .field _ _ => []
  | .call _ args _ => placeholdersOf args
  | .expression expr _ => expr.placeholders

/-- The numbers of the placeholders of a column list. -/
def columnPlaceholders (columns : List Column) : List Nat :=
  columns.flatMap Column.placeholders

/-- The numbers of the placeholders of a condition, where there is one. -/
def filterPlaceholders (filter : Option Expr) : List Nat := filter.elim [] Expr.placeholders

/-- The numbers of the placeholders of a SELECT: those of its columns, of what it reads from, and
of its condition. -/
def Select.placeholders : Select → List Nat
  | ⟨columns, .table _, _, filter, _⟩ => columnPlaceholders columns ++ filterPlaceholders filter
  | ⟨columns, .nested inner, _, filter, _⟩ =>
      columnPlaceholders columns ++ (inner.placeholders ++ filterPlaceholders filter)

/-- The numbers of the placeholders of what a SELECT reads from. -/
def Source.placeholders : Source Select → List Nat
  | .table _ => []
  | .nested inner => inner.placeholders

theorem Select.placeholders_eq (select : Select) :
    select.placeholders =
      columnPlaceholders select.columns ++
        (select.source.placeholders ++ filterPlaceholders select.filter) := by
  rcases select with ⟨columns, source, offset, filter, limit⟩
  cases source <;> rw [Select.placeholders] <;> rfl

@[simp] theorem Column.placeholders_ofExpr (expr : Expr) (label : Option String) :
    (Column.ofExpr expr label).placeholders = expr.placeholders := by
  cases expr <;> simp [Column.ofExpr, Column.placeholders, Expr.placeholders]

/-- Numbers that are given in a row are split in two rows. -/
theorem split_range' {first second : List Nat} {start count : Nat}
    (same : first ++ second = List.range' start count) :
    first = List.range' start first.length ∧
      second = List.range' (start + first.length) second.length ∧
      first.length + second.length = count := by
  have total : first.length + second.length = count := by
    rw [← List.length_append, same, List.length_range']
  rw [← total, ← List.range'_append_1] at same
  rcases List.append_inj same (List.length_range' ..).symm with ⟨front, back⟩
  exact ⟨front, back, total⟩

/-! ## Stretches of tokens -/

namespace Token

def isPlaceholder : Token → Bool
  | .placeholder => true
  | _ => false

/-- The tokens that expressions and column lists are made of: no word starts a condition. -/
def inExpression : Token → Bool
  | .keyword .where_ => false
  | _ => true

/-- Any token at all. -/
def any (_ : Token) : Bool := true

end Token

/-- How many placeholders stand among tokens. -/
def placeholderCount (tokens : List Located) : Nat :=
  tokens.countP (·.token.isPlaceholder)

/-- The tokens of some kinds from one point to another hold placeholders with the given numbers,
counted from `n` up to `m`. -/
def Numbered (allowed : Token → Bool) (tokens rest : List Located) (n m : Nat)
    (indices : List Nat) : Prop :=
  ∃ taken, tokens = taken ++ rest ∧ m = n + placeholderCount taken ∧
    indices = List.range' n (placeholderCount taken) ∧
    ∀ located ∈ taken, allowed located.token = true

namespace Numbered

variable {allowed : Token → Bool} {tokens rest last : List Located} {n m k : Nat}
  {indices others : List Nat}

theorem refl (tokens : List Located) (n : Nat) : Numbered allowed tokens tokens n n [] :=
  ⟨[], rfl, rfl, rfl, by simp⟩

theorem trans (first : Numbered allowed tokens rest n m indices)
    (second : Numbered allowed rest last m k others) :
    Numbered allowed tokens last n k (indices ++ others) := by
  rcases first with ⟨taken, rfl, rfl, rfl, front⟩
  rcases second with ⟨more, rfl, rfl, rfl, back⟩
  refine ⟨taken ++ more, (List.append_assoc ..).symm, ?_, ?_, ?_⟩
  · rw [placeholderCount, placeholderCount, placeholderCount, List.countP_append, Nat.add_assoc]
  · rw [List.range'_append_1, placeholderCount, placeholderCount, placeholderCount,
      List.countP_append]
  · intro located inside
    rcases List.mem_append.1 inside with inside | inside
    · exact front located inside
    · exact back located inside

/-- What is left of the tokens is an end of them. -/
theorem exists_append (numbered : Numbered allowed tokens rest n m indices) :
    ∃ taken, tokens = taken ++ rest := by
  rcases numbered with ⟨taken, split, -⟩
  exact ⟨taken, split⟩

/-- A placeholder takes the next number. -/
theorem placeholder (fits : allowed .placeholder = true) (position : Nat) (rest : List Located) (n : Nat) :
    Numbered allowed (⟨.placeholder, position⟩ :: rest) rest n (n + 1) [n] :=
  ⟨[⟨.placeholder, position⟩], rfl, rfl, rfl, by simpa using fits⟩

/-- Any other token leaves the count alone. -/
theorem skip {located : Located} (fits : allowed located.token = true)
    (other : located.token.isPlaceholder = false) (behind : Numbered allowed tokens rest n m indices) :
    Numbered allowed (located :: tokens) rest n m indices := by
  rcases behind with ⟨taken, rfl, rfl, rfl, back⟩
  have same : placeholderCount (located :: taken) = placeholderCount taken := by
    rw [placeholderCount, List.countP_cons_of_neg (by simpa using other)]
    rfl
  refine ⟨located :: taken, rfl, by rw [same], by rw [same], ?_⟩
  intro token inside
  rcases List.mem_cons.1 inside with rfl | inside
  · exact fits
  · exact back token inside

theorem mono {more : Token → Bool} (wider : ∀ token, allowed token = true → more token = true)
    (numbered : Numbered allowed tokens rest n m indices) :
    Numbered more tokens rest n m indices := by
  rcases numbered with ⟨taken, split, count, range, fits⟩
  exact ⟨taken, split, count, range, fun located inside => wider _ (fits located inside)⟩

end Numbered

/-! ## Tokens that are taken -/

/-- What stands behind one token more is shorter still. -/
theorem Parsed.length_lt_of_rest {α : Type} {tokens rest : List Located} {located : Located}
    (parsed : Parsed α tokens) (next : parsed.rest = located :: rest) :
    rest.length < tokens.length := by
  have shorter := parsed.shorter
  rw [next] at shorter
  exact Nat.lt_of_succ_lt shorter

/-- A token that is expected stands at the front. -/
theorem expect_eq_ok {wanted : Token} {tokens : List Located} {behind : Behind tokens}
    (found : expect wanted tokens = .ok behind) :
    ∃ position, tokens = ⟨wanted, position⟩ :: behind.1 := by
  unfold expect at found
  split at found
  · split at found
    · rename_i position rest same
      cases found
      exact ⟨position, same ▸ rfl⟩
    · cases found
  · cases found

/-- A name that is expected stands at the front. -/
theorem expectIdentifier_eq_ok {name : String} {tokens : List Located} {behind : Behind tokens}
    (found : expectIdentifier tokens = .ok (name, behind)) :
    ∃ position, tokens = ⟨.identifier name, position⟩ :: behind.1 := by
  unfold expectIdentifier at found
  split at found
  · rename_i position rest
    cases found
    exact ⟨position, rfl⟩
  · cases found

/-! ## Readers of expressions -/

/-- What a reader gives is numbered from the count that it was given on. -/
def ReadsNumbered {α : Type} (allowed : Token → Bool) (indices : α → List Nat)
    (tokens : List Located) (read : Nat → QueryResult (Parsed α tokens)) : Prop :=
  ∀ n parsed, read n = .ok parsed →
    Numbered allowed tokens parsed.rest n parsed.placeholders (indices parsed.value)

/-- A reader of operands adds its own numbers behind those of the operands before them. -/
def JoinsNumbered (tokens : List Located)
    (read : Option Expr → Nat → QueryResult (Parsed Expr tokens)) : Prop :=
  ∀ before n parsed, read before n = .ok parsed → ∃ own,
    parsed.value.placeholders = before.elim [] Expr.placeholders ++ own ∧
      Numbered Token.inExpression tokens parsed.rest n parsed.placeholders own

/-- The readers of the parts of expressions number what they read in tokens. -/
structure NumbersExpressions (tokens : List Located) : Prop where
  primary : ReadsNumbered Token.inExpression Expr.placeholders tokens (primary tokens)
  negation : ReadsNumbered Token.inExpression Expr.placeholders tokens (negation tokens)
  conjunction : JoinsNumbered tokens (conjunction · tokens)
  disjunction : JoinsNumbered tokens (disjunction · tokens)
  expressions : ReadsNumbered Token.inExpression placeholdersOf tokens (expressions tokens)
  arguments : ReadsNumbered Token.inExpression placeholdersOf tokens (arguments tokens)

section Tokens

variable {tokens : List Located} {allowed : Token → Bool}

theorem numbered_expect {wanted : Token} {behind : Behind tokens}
    (found : expect wanted tokens = .ok behind) (n : Nat) (fits : allowed wanted = true)
    (other : wanted.isPlaceholder = false) : Numbered allowed tokens behind.1 n n [] := by
  rcases expect_eq_ok found with ⟨position, front⟩
  have taken : Numbered allowed (⟨wanted, position⟩ :: behind.1) behind.1 n n [] :=
    .skip fits other (.refl _ n)
  rwa [← front] at taken

theorem numbered_expectIdentifier {name : String} {behind : Behind tokens}
    (found : expectIdentifier tokens = .ok (name, behind)) (n : Nat)
    (fits : ∀ name, allowed (.identifier name) = true) :
    Numbered allowed tokens behind.1 n n [] := by
  rcases expectIdentifier_eq_ok found with ⟨position, front⟩
  have taken : Numbered allowed (⟨.identifier name, position⟩ :: behind.1) behind.1 n n [] :=
    .skip (fits name) rfl (.refl _ n)
  rwa [← front] at taken

end Tokens

theorem placeholders_joinLeft (op : BinaryOp) (before : Option Expr) (right : Expr) :
    (joinLeft op before right).placeholders =
      before.elim [] Expr.placeholders ++ right.placeholders := by
  cases before <;> rfl

/-- Comparisons are neither placeholders nor words. -/
theorem fits_of_compareOp? {token : Token} {op : CompareOp} (compares : compareOp? token = some op) :
    token.inExpression = true ∧ token.isPlaceholder = false := by
  cases token with
  | symbol sign => exact ⟨rfl, rfl⟩
  | _ => cases compares

namespace NumbersExpressions

variable {tokens : List Located}

/-- One operand is read with the readers of shorter lists of tokens. -/
theorem readsNumbered_primary
    (below : ∀ rest : List Located, rest.length < tokens.length → NumbersExpressions rest) :
    ReadsNumbered Token.inExpression Expr.placeholders tokens (Sql.primary tokens) := by
  intro n parsed found
  rw [Sql.primary.eq_def] at found
  split at found
  case h_1 | h_2 | h_4 | h_5 | h_6 | h_7 =>
    cases found
    exact .skip rfl rfl (.refl _ n)
  case h_3 =>
    split at found
    · cases found
      exact .skip rfl rfl (.skip rfl rfl (.refl _ n))
    · cases found
      exact .skip rfl rfl (.skip rfl rfl (.refl _ n))
    · cases found
  case h_8 =>
    cases found
    exact .placeholder rfl _ _ n
  case h_9 position inner =>
    rcases Outcome.bind_eq_ok.1 found with ⟨whole, read, found⟩
    rcases Outcome.bind_eq_ok.1 found with ⟨close, closed, same⟩
    cases same
    rcases (below inner (Nat.lt_succ_self _)).disjunction none n whole read with
      ⟨own, same, numbered⟩
    have behind := numbered.trans (numbered_expect closed whole.placeholders rfl rfl)
    rw [List.append_nil] at behind
    exact .skip rfl rfl (same ▸ behind)
  case h_10 =>
    cases found
    exact .skip rfl rfl (.skip rfl rfl (.skip rfl rfl (.refl _ n)))
  case h_11 name position position' inner _ =>
    rcases Outcome.bind_eq_ok.1 found with ⟨args, read, found⟩
    rcases Outcome.bind_eq_ok.1 found with ⟨close, closed, same⟩
    cases same
    have numbered := (below inner (by simp only [List.length_cons]; omega)).arguments n args read
    have behind := numbered.trans (numbered_expect closed args.placeholders rfl rfl)
    rw [List.append_nil] at behind
    exact .skip rfl rfl (.skip rfl rfl behind)
  case h_12 =>
    rcases Outcome.bind_eq_ok.1 found with ⟨⟨column, after⟩, read, same⟩
    cases same
    exact .skip rfl rfl (.skip rfl rfl (numbered_expectIdentifier read n (fun _ => rfl)))
  case h_13 =>
    cases found
    exact .skip rfl rfl (.refl _ n)
  case h_14 => cases found

/-- A list between parentheses is read with the reader of a shorter list of tokens. -/
theorem readsNumbered_listInParens
    (below : ∀ rest : List Located, rest.length < tokens.length → NumbersExpressions rest) :
    ReadsNumbered Token.inExpression placeholdersOf tokens (listInParens tokens) := by
  intro n parsed found
  rw [listInParens] at found
  rcases Outcome.bind_eq_ok.1 found with ⟨⟨inner, less⟩, opened, found⟩
  rcases Outcome.bind_eq_ok.1 found with ⟨items, read, found⟩
  rcases Outcome.bind_eq_ok.1 found with ⟨close, closed, same⟩
  cases same
  have opening : Numbered Token.inExpression tokens inner n n [] :=
    numbered_expect opened n rfl rfl
  have numbered := (below inner less).expressions n items read
  have closing : Numbered Token.inExpression items.rest close.1 items.placeholders
      items.placeholders [] := numbered_expect closed items.placeholders rfl rfl
  have whole := (opening.trans numbered).trans closing
  rwa [List.nil_append, List.append_nil] at whole

/-- A comparison is read with the reader of one operand and the readers of shorter lists. -/
theorem readsNumbered_comparison
    (below : ∀ rest : List Located, rest.length < tokens.length → NumbersExpressions rest) :
    ReadsNumbered Token.inExpression Expr.placeholders tokens (comparison tokens) := by
  intro n parsed found
  rw [comparison] at found
  rcases Outcome.bind_eq_ok.1 found with ⟨left, read, found⟩
  have first := readsNumbered_primary below n left read
  -- What follows the operand is shorter than the whole.
  have shorter {rest : List Located} (le : rest.length ≤ left.rest.length) :
      rest.length < tokens.length := Nat.lt_of_le_of_lt le left.shorter
  dsimp only at found
  split at found
  case h_1 next =>
    rcases Outcome.bind_eq_ok.1 found with ⟨close, closed, same⟩
    cases same
    rw [next] at first
    have whole := first.trans (.skip rfl rfl (.skip rfl rfl
      (numbered_expect closed left.placeholders rfl rfl)))
    rwa [List.append_nil] at whole
  case h_2 next =>
    rcases Outcome.bind_eq_ok.1 found with ⟨close, closed, same⟩
    cases same
    rw [next] at first
    have whole := first.trans (.skip rfl rfl
      (numbered_expect closed left.placeholders rfl rfl))
    rwa [List.append_nil] at whole
  case h_3 rest next =>
    rcases Outcome.bind_eq_ok.1 found with ⟨items, readMore, same⟩
    cases same
    rw [next] at first shorter
    have list := readsNumbered_listInParens
      (fun inner less =>
        below inner (Nat.lt_trans less (shorter (Nat.le_add_right rest.length 2))))
      left.placeholders items readMore
    exact first.trans (.skip rfl rfl (.skip rfl rfl list))
  case h_4 rest next =>
    rcases Outcome.bind_eq_ok.1 found with ⟨items, readMore, same⟩
    cases same
    rw [next] at first shorter
    have list := readsNumbered_listInParens
      (fun inner less => below inner (Nat.lt_trans less (shorter (Nat.le_succ rest.length))))
      left.placeholders items readMore
    exact first.trans (.skip rfl rfl list)
  case h_5 token position rest _ _ _ _ next =>
    rw [next] at first shorter
    split at found
    · rename_i op compares
      rcases Outcome.bind_eq_ok.1 found with ⟨right, readRight, same⟩
      cases same
      have second := (below rest (shorter (Nat.le_succ _))).primary left.placeholders right readRight
      rcases fits_of_compareOp? compares with ⟨fits, other⟩
      exact first.trans (.skip fits other second)
    · cases found
      rwa [← next] at first
  case h_6 =>
    cases found
    exact first

theorem readsNumbered_negation
    (below : ∀ rest : List Located, rest.length < tokens.length → NumbersExpressions rest) :
    ReadsNumbered Token.inExpression Expr.placeholders tokens (Sql.negation tokens) := by
  intro n parsed found
  rw [Sql.negation.eq_def] at found
  split at found
  · rename_i position rest
    rcases Outcome.bind_eq_ok.1 found with ⟨operand, read, same⟩
    cases same
    exact .skip rfl rfl ((below rest (Nat.lt_succ_self _)).negation n operand read)
  · exact readsNumbered_comparison below n parsed found

theorem joinsNumbered_conjunction
    (below : ∀ rest : List Located, rest.length < tokens.length → NumbersExpressions rest) :
    JoinsNumbered tokens (Sql.conjunction · tokens) := by
  intro before n parsed found
  dsimp only at found
  rw [Sql.conjunction] at found
  rcases Outcome.bind_eq_ok.1 found with ⟨operand, read, found⟩
  have first := readsNumbered_negation below n operand read
  dsimp only at found
  split at found
  · rename_i position rest next
    rcases Outcome.bind_eq_ok.1 found with ⟨whole, readMore, same⟩
    cases same
    rw [next] at first
    have less := operand.length_lt_of_rest next
    rcases (below rest less).conjunction _ _ whole readMore with ⟨own, same, numbered⟩
    refine ⟨operand.value.placeholders ++ own, ?_, first.trans (.skip rfl rfl numbered)⟩
    rw [← List.append_assoc, ← placeholders_joinLeft]
    exact same
  · cases found
    exact ⟨_, placeholders_joinLeft .and before operand.value, first⟩

theorem joinsNumbered_disjunction
    (below : ∀ rest : List Located, rest.length < tokens.length → NumbersExpressions rest) :
    JoinsNumbered tokens (Sql.disjunction · tokens) := by
  intro before n parsed found
  dsimp only at found
  rw [Sql.disjunction] at found
  rcases Outcome.bind_eq_ok.1 found with ⟨operand, read, found⟩
  rcases joinsNumbered_conjunction below none n operand read with ⟨_, rfl, first⟩
  dsimp only at found
  split at found
  · rename_i position rest next
    rcases Outcome.bind_eq_ok.1 found with ⟨whole, readMore, same⟩
    cases same
    rw [next] at first
    have less := operand.length_lt_of_rest next
    rcases (below rest less).disjunction _ _ whole readMore with ⟨own, same, numbered⟩
    refine ⟨operand.value.placeholders ++ own, ?_, first.trans (.skip rfl rfl numbered)⟩
    rw [← List.append_assoc, ← placeholders_joinLeft]
    exact same
  · cases found
    exact ⟨_, placeholders_joinLeft .or before operand.value, first⟩

/-- A reader of all operands of a list numbers what it reads. -/
theorem readsNumbered_disjunction
    (below : ∀ rest : List Located, rest.length < tokens.length → NumbersExpressions rest) :
    ReadsNumbered Token.inExpression Expr.placeholders tokens (Sql.disjunction none tokens) := by
  intro n parsed found
  rcases joinsNumbered_disjunction below none n parsed found with ⟨own, same, numbered⟩
  rw [Option.elim_none, List.nil_append] at same
  exact same ▸ numbered

theorem readsNumbered_expressions
    (below : ∀ rest : List Located, rest.length < tokens.length → NumbersExpressions rest) :
    ReadsNumbered Token.inExpression placeholdersOf tokens (Sql.expressions tokens) := by
  intro n parsed found
  rw [Sql.expressions] at found
  rcases Outcome.bind_eq_ok.1 found with ⟨operand, read, found⟩
  have first := readsNumbered_disjunction below n operand read
  dsimp only at found
  split at found
  · rename_i position rest next
    rcases Outcome.bind_eq_ok.1 found with ⟨others, readMore, same⟩
    cases same
    rw [next] at first
    have less := operand.length_lt_of_rest next
    exact first.trans (.skip rfl rfl ((below rest less).expressions _ others readMore))
  · cases found
    exact (placeholdersOf_singleton operand.value).symm ▸ first

theorem readsNumbered_castAt {operand : Parsed Expr tokens} {n : Nat}
    (first : Numbered Token.inExpression tokens operand.rest n operand.placeholders
      operand.value.placeholders) {parsed : Parsed (List Expr) tokens}
    (found : castAt operand = .ok parsed) :
    Numbered Token.inExpression tokens parsed.rest n parsed.placeholders
      (placeholdersOf parsed.value) := by
  unfold castAt at found
  split at found
  · rename_i position rest next
    rcases Outcome.bind_eq_ok.1 found with ⟨⟨target, after⟩, read, same⟩
    cases same
    rw [next] at first
    exact first.trans (.skip rfl rfl
      (numbered_expectIdentifier read operand.placeholders (fun _ => rfl)))
  · cases found
    exact (placeholdersOf_singleton operand.value).symm ▸ first

theorem readsNumbered_argument
    (below : ∀ rest : List Located, rest.length < tokens.length → NumbersExpressions rest) :
    ReadsNumbered Token.inExpression placeholdersOf tokens (argument tokens) := by
  intro n parsed found
  rw [argument.eq_def] at found
  split at found
  · rename_i position rest
    have star : Numbered Token.inExpression (⟨.symbol .star, position⟩ :: rest) rest n n [] :=
      .skip rfl rfl (.refl rest n)
    exact readsNumbered_castAt star found
  · rcases Outcome.bind_eq_ok.1 found with ⟨operand, read, found⟩
    exact readsNumbered_castAt (readsNumbered_disjunction below n operand read) found

theorem readsNumbered_arguments
    (below : ∀ rest : List Located, rest.length < tokens.length → NumbersExpressions rest) :
    ReadsNumbered Token.inExpression placeholdersOf tokens (Sql.arguments tokens) := by
  intro n parsed found
  rw [Sql.arguments] at found
  rcases Outcome.bind_eq_ok.1 found with ⟨argument, read, found⟩
  have first := readsNumbered_argument below n argument read
  dsimp only at found
  split at found
  · rename_i position rest next
    rcases Outcome.bind_eq_ok.1 found with ⟨others, readMore, same⟩
    cases same
    rw [next] at first
    have less := argument.length_lt_of_rest next
    have second := (below rest less).arguments _ others readMore
    exact (placeholdersOf_append argument.value others.value).symm ▸
      first.trans (.skip rfl rfl second)
  · cases found
    exact first

end NumbersExpressions

/-- All readers of the parts of expressions number what they read: those of one list of tokens by
those of the shorter ones. -/
theorem numbersExpressions (tokens : List Located) : NumbersExpressions tokens := by
  induction length : tokens.length using Nat.strong_induction_on generalizing tokens with
  | _ length' ih =>
      subst length
      have below (rest : List Located) (less : rest.length < tokens.length) :
          NumbersExpressions rest := ih rest.length less rest rfl
      exact {
        primary := NumbersExpressions.readsNumbered_primary below
        negation := NumbersExpressions.readsNumbered_negation below
        conjunction := NumbersExpressions.joinsNumbered_conjunction below
        disjunction := NumbersExpressions.joinsNumbered_disjunction below
        expressions := NumbersExpressions.readsNumbered_expressions below
        arguments := NumbersExpressions.readsNumbered_arguments below }

theorem readsNumbered_expression (tokens : List Located) :
    ReadsNumbered Token.inExpression Expr.placeholders tokens (expression tokens) :=
  NumbersExpressions.readsNumbered_disjunction fun rest _ => numbersExpressions rest

/-! ## Readers of SELECT -/

theorem readsNumbered_column (tokens : List Located) :
    ReadsNumbered Token.inExpression Column.placeholders tokens (column tokens) := by
  intro n parsed found
  rw [column.eq_def] at found
  split at found
  · cases found
    exact .skip rfl rfl (.refl _ n)
  · rcases Outcome.bind_eq_ok.1 found with ⟨operand, read, found⟩
    have first := (numbersExpressions tokens).primary n operand read
    dsimp only at found
    split at found
    · rename_i next
      rcases Outcome.bind_eq_ok.1 found with ⟨⟨label, after⟩, named, same⟩
      cases same
      rw [next] at first
      have whole := first.trans (.skip rfl rfl
        (numbered_expectIdentifier named operand.placeholders (fun _ => rfl)))
      rw [List.append_nil] at whole
      exact (Column.placeholders_ofExpr operand.value (some label)).symm ▸ whole
    · rename_i label position rest next
      cases found
      rw [next] at first
      have whole := first.trans (.skip rfl rfl (.refl rest operand.placeholders))
      rw [List.append_nil] at whole
      exact (Column.placeholders_ofExpr operand.value (some label)).symm ▸ whole
    · cases found
      exact (Column.placeholders_ofExpr operand.value none).symm ▸ first

theorem readsNumbered_columns (tokens : List Located) :
    ReadsNumbered Token.inExpression columnPlaceholders tokens (columns tokens) := by
  intro n
  fun_induction columns tokens n with
  | case1 tokens n ih =>
      intro parsed found
      rcases Outcome.bind_eq_ok.1 found with ⟨entry, read, found⟩
      have first := readsNumbered_column tokens n entry read
      dsimp only at found
      split at found
      · rename_i position rest next
        rcases Outcome.bind_eq_ok.1 found with ⟨others, readMore, same⟩
        cases same
        rw [next] at first
        exact first.trans (.skip rfl rfl (ih entry position rest next others readMore))
      · cases found
        have same : columnPlaceholders [entry.value] = entry.value.placeholders :=
          List.flatMap_singleton ..
        change Numbered _ tokens entry.rest n entry.placeholders (columnPlaceholders [entry.value])
        rwa [same]

theorem Numbered.any {allowed : Token → Bool} {tokens rest : List Located} {n m : Nat}
    {indices : List Nat} (numbered : Numbered allowed tokens rest n m indices) :
    Numbered Token.any tokens rest n m indices :=
  numbered.mono fun _ _ => rfl

section Clauses

variable {α : Type} {tokens : List Located} {before : Parsed α tokens}

/-- A condition is read behind the first `WHERE`. -/
theorem filterAt_eq_ok {parsed : Parsed (α × Option Expr) tokens}
    (found : filterAt before = .ok parsed) : parsed.value.1 = before.value ∧
      ((∃ position rest, before.rest = ⟨.keyword .where_, position⟩ :: rest ∧
          Numbered Token.inExpression rest parsed.rest before.placeholders parsed.placeholders
            (filterPlaceholders parsed.value.2)) ∨
        parsed.rest = before.rest ∧ parsed.placeholders = before.placeholders ∧
          parsed.value.2 = none) := by
  unfold filterAt at found
  split at found
  · rename_i position rest next
    rcases Outcome.bind_eq_ok.1 found with ⟨filter, read, same⟩
    cases same
    exact ⟨rfl, .inl ⟨position, rest, next,
      readsNumbered_expression rest before.placeholders filter read⟩⟩
  · cases found
    exact ⟨rfl, .inr ⟨rfl, rfl, rfl⟩⟩

theorem numbered_filterAt {parsed : Parsed (α × Option Expr) tokens}
    (found : filterAt before = .ok parsed) :
    Numbered Token.any before.rest parsed.rest before.placeholders parsed.placeholders
      (filterPlaceholders parsed.value.2) := by
  rcases filterAt_eq_ok found with ⟨-, ⟨position, rest, next, numbered⟩ | ⟨rest, count, none⟩⟩
  · rw [next]
    exact .skip rfl rfl numbered.any
  · rw [rest, count, none]
    exact .refl _ _

/-- A limit holds no placeholders. -/
theorem numbered_limitAt {parsed : Parsed (α × Option Nat) tokens}
    (found : limitAt before = .ok parsed) :
    parsed.value.1 = before.value ∧
      Numbered Token.inExpression before.rest parsed.rest before.placeholders parsed.placeholders
        [] := by
  unfold limitAt at found
  split at found
  · rename_i next
    cases found
    refine ⟨rfl, ?_⟩
    dsimp only
    rw [next]
    exact .skip rfl rfl (.skip rfl rfl (.refl _ _))
  · cases found
  · cases found
    exact ⟨rfl, .refl _ _⟩

theorem numbered_skipLabel {parsed : Parsed α tokens} (found : skipLabel before = .ok parsed) :
    parsed.value = before.value ∧
      Numbered Token.inExpression before.rest parsed.rest before.placeholders parsed.placeholders
        [] := by
  unfold skipLabel at found
  split at found
  · rename_i next
    rcases Outcome.bind_eq_ok.1 found with ⟨⟨label, after⟩, named, same⟩
    cases same
    refine ⟨rfl, ?_⟩
    dsimp only
    rw [next]
    exact .skip rfl rfl
      (numbered_expectIdentifier named before.placeholders (fun _ => rfl))
  · rename_i next
    cases found
    refine ⟨rfl, ?_⟩
    dsimp only
    rw [next]
    exact .skip rfl rfl (.refl _ _)
  · cases found
    exact ⟨rfl, .refl _ _⟩

end Clauses

/-- What reading a SELECT takes: its columns up to `FROM`, its source, its condition and its
limit. -/
theorem select_eq_ok {tokens : List Located} {n : Nat} {parsed : Parsed Select tokens}
    (found : select tokens n = .ok parsed) :
    ∃ (middle : Nat) (behind : List Located) (origin : Parsed (Source Select) behind)
        (filtered : Parsed (Source Select × Option Expr) behind),
      behind.length < tokens.length ∧
      Numbered Token.inExpression tokens behind n middle
        (columnPlaceholders parsed.value.columns) ∧
      source behind middle = .ok origin ∧ parsed.value.source = origin.value ∧
      filterAt origin = .ok filtered ∧ parsed.value.filter = filtered.value.2 ∧
      Numbered Token.inExpression filtered.rest parsed.rest filtered.placeholders
        parsed.placeholders [] := by
  rw [select.eq_def] at found
  rcases Outcome.bind_eq_ok.1 found with ⟨⟨start, opened⟩, opens, found⟩
  rcases Outcome.bind_eq_ok.1 found with ⟨columns, listed, found⟩
  rcases Outcome.bind_eq_ok.1 found with ⟨⟨behind, within⟩, reads, found⟩
  rcases Outcome.bind_eq_ok.1 found with ⟨origin, from_, found⟩
  rcases Outcome.bind_eq_ok.1 found with ⟨filtered, filter, found⟩
  rcases Outcome.bind_eq_ok.1 found with ⟨limited, limit, same⟩
  cases same
  rcases numbered_limitAt limit with ⟨same, numbered⟩
  have kept := (filterAt_eq_ok filter).1
  have front : Numbered Token.inExpression tokens start n n [] :=
    numbered_expect opens n rfl rfl
  have list := front.trans ((readsNumbered_columns start n columns listed).trans
    (numbered_expect reads columns.placeholders rfl rfl))
  rw [List.nil_append, List.append_nil] at list
  refine ⟨columns.placeholders, behind, origin, filtered, ?_, list, from_, ?_, filter, ?_, numbered⟩
  · exact Nat.lt_trans within (Nat.lt_trans columns.shorter opened)
  · simp [Parsed.widen, Parsed.map, same, kept]
  · simp [Parsed.widen, Parsed.map, same]

/-- A SELECT is numbered when the sources behind it are. -/
theorem readsNumbered_select {tokens : List Located}
    (below : ∀ rest : List Located, rest.length < tokens.length →
      ReadsNumbered Token.any Source.placeholders rest (source rest)) :
    ReadsNumbered Token.any Select.placeholders tokens (select tokens) := by
  intro n parsed found
  obtain ⟨middle, behind, origin, filtered, shorter, list, from_, sameSource, filter, sameFilter,
    limit⟩ := select_eq_ok found
  have numbered := (list.any.trans (below behind shorter middle origin from_)).trans
    ((numbered_filterAt filter).trans limit.any)
  rw [List.append_nil, List.append_assoc, ← sameSource, ← sameFilter] at numbered
  rwa [Select.placeholders_eq]

/-- A source is numbered when the SELECTs inside it are. -/
theorem readsNumbered_source {tokens : List Located}
    (below : ∀ rest : List Located, rest.length < tokens.length →
      ReadsNumbered Token.any Select.placeholders rest (select rest)) :
    ReadsNumbered Token.any Source.placeholders tokens (source tokens) := by
  intro n parsed found
  rw [source.eq_def] at found
  split at found
  · rename_i position inner
    rcases Outcome.bind_eq_ok.1 found with ⟨nested, read, found⟩
    rcases Outcome.bind_eq_ok.1 found with ⟨⟨rest, closed⟩, closes, found⟩
    rcases numbered_skipLabel found with ⟨same, label⟩
    have numbered := (below inner (Nat.lt_succ_self _) n nested read).trans
      ((numbered_expect closes nested.placeholders rfl rfl).trans label.any)
    rw [List.nil_append, List.append_nil] at numbered
    rw [same]
    exact .skip rfl rfl numbered
  · rcases Outcome.bind_eq_ok.1 found with ⟨⟨name, rest, less⟩, named, same⟩
    cases same
    exact numbered_expectIdentifier named n (fun _ => rfl)

/-- Every SELECT numbers what it reads: by induction on the tokens, the source of one by the
SELECT inside it and that one by its source. -/
theorem numbered_select (tokens : List Located) :
    ReadsNumbered Token.any Select.placeholders tokens (select tokens) := by
  induction length : tokens.length using Nat.strong_induction_on generalizing tokens with
  | _ length' ih =>
      subst length
      refine readsNumbered_select fun rest less => readsNumbered_source fun inner lessInner => ?_
      exact ih inner.length (Nat.lt_trans lessInner less) inner rfl

end RecordQuery.Sql
