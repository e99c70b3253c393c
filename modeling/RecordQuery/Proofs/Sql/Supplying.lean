import RecordQuery.Proofs.Sql.RoundTrip
import RecordQuery.Proofs.Sql.Supply

/-!
# Reading tokens with literals

Where literals are written for placeholders, every reader gives what it gave before with the
literals in the places of these placeholders. So the placeholder with a number is what was read from
the token with this number, and no reader leaves one out, takes one twice or numbers it anew. The
positions of the tokens may change as well.
-/

namespace RecordQuery.Sql

variable {supply : Supply}

/-! ## Readers of expressions -/

section Expressions

variable {tokens other : List Located}

/-- A reader gives the same from tokens with literals, with the literals in their places. -/
def ReadsSupplied {α : Type} (supply : Supply) (supplied : α → α)
    (read : (tokens : List Located) → Nat → QueryResult (Parsed α tokens))
    (tokens : List Located) : Prop :=
  ∀ n parsed, read tokens n = .ok parsed → ∀ other, Supplied supply n tokens other →
    ∃ rest, Gives (read other (supply.kept n)) (supplied parsed.value) rest
        (supply.kept parsed.placeholders) ∧
      Supplied supply parsed.placeholders parsed.rest rest

/-- A reader of joined operands does so with the operands that were read before. -/
def JoinsSupplied (supply : Supply) (joint : Joint) (tokens : List Located) : Prop :=
  ∀ before n parsed, joint.read before tokens n = .ok parsed →
    ∀ other, Supplied supply n tokens other →
      ∃ rest, Gives (joint.read (before.map (Expr.supplied supply)) other (supply.kept n))
          (parsed.value.supplied supply) rest (supply.kept parsed.placeholders) ∧
        Supplied supply parsed.placeholders parsed.rest rest

/-- The readers of the parts of expressions give the same from tokens with literals. -/
structure SuppliesExpressions (supply : Supply) (tokens : List Located) : Prop where
  primary : ReadsSupplied supply (Expr.supplied supply) primary tokens
  negation : ReadsSupplied supply (Expr.supplied supply) negation tokens
  joint : ∀ joint, JoinsSupplied supply joint tokens
  expressions : ReadsSupplied supply (suppliedEach supply) expressions tokens
  arguments : ReadsSupplied supply (suppliedEach supply) arguments tokens

/-- The operand of a placeholder is read from its tokens, and counts only where it stays. -/
theorem gives_tokensAt (supply : Supply) {index : Nat} {front : List Located}
    (written : front.map (·.token) = supply.tokensAt index) (rest : List Located) :
    Gives (primary (front ++ rest) (supply.kept index)) (supply.operandAt index) rest
      (supply.kept (index + 1)) := by
  rw [Supply.tokensAt] at written
  rw [Supply.operandAt, Supply.kept]
  cases literal : supply index with
  | none =>
      rw [literal] at written
      rcases exists_singleton_of_map_token written with ⟨position, rfl⟩
      rw [List.singleton_append, primary]
      exact ⟨_, rfl⟩
  | some literal' =>
      rw [literal] at written
      exact literal'.gives_write written _ _

/-- A target behind an `AS` is read all the same. -/
theorem castAt_supplied {rest front : List Located} {value : Expr} {m : Nat}
    {shorter : rest.length < tokens.length} (less : front.length < other.length)
    (same : Supplied supply m rest front) {parsed : Parsed (List Expr) tokens}
    (found : castAt ⟨value, rest, m, shorter⟩ = .ok parsed) :
    ∃ last, Gives (castAt (⟨value.supplied supply, front, supply.kept m, less⟩ : Parsed Expr other))
        (suppliedEach supply parsed.value) last (supply.kept parsed.placeholders) ∧
      Supplied supply parsed.placeholders parsed.rest last := by
  unfold castAt at found
  split at found
  · rename_i position inner next
    rcases Outcome.bind_eq_ok.1 found with ⟨⟨target, after⟩, read, same⟩
    cases same
    cases next
    rcases same.cons rfl with ⟨place, _, rfl, behind⟩
    rcases behind.expectIdentifier read with ⟨place', last, rfl, further⟩
    exact ⟨last, ⟨_, rfl⟩, further⟩
  · rename_i none
    cases found
    refine ⟨front, ?_, same⟩
    unfold castAt
    dsimp only
    split
    · rcases same.uncons (by rintro ⟨⟩) with ⟨_, _, same⟩
      exact absurd same (none _ _)
    · exact ⟨_, rfl⟩

namespace SuppliesExpressions

/-- A whole expression, where no operands have been read before it. -/
theorem disjunction (supplies : SuppliesExpressions supply tokens) :
    ReadsSupplied supply (Expr.supplied supply) (Sql.disjunction none) tokens :=
  supplies.joint .or none

variable
  (below : ∀ rest : List Located, rest.length < tokens.length → SuppliesExpressions supply rest)
include below

/-- One operand is read with the readers of shorter lists of tokens. Only here a placeholder is
read. -/
theorem readsSupplied_primary :
    ReadsSupplied supply (Expr.supplied supply) Sql.primary tokens := by
  intro n parsed found other supplied
  rw [Sql.primary.eq_def] at found
  split at found
  case h_1 | h_2 | h_4 | h_5 | h_6 | h_7 =>
    cases found
    rcases supplied.cons rfl with ⟨place, more, rfl, behind⟩
    refine ⟨more, ?_, behind⟩
    rw [Sql.primary]
    exact ⟨_, rfl⟩
  case h_3 =>
    rcases supplied.cons rfl with ⟨place, more, rfl, behind⟩
    split at found
    case h_1 | h_2 =>
      cases found
      rcases behind.cons rfl with ⟨place', more, rfl, further⟩
      refine ⟨more, ?_, further⟩
      rw [Sql.primary]
      exact ⟨_, rfl⟩
    case h_3 => cases found
  case h_8 =>
    cases found
    rcases supplied.placeholder with ⟨front, more, rfl, written, behind⟩
    exact ⟨more, gives_tokensAt supply written more, behind⟩
  case h_9 position inner =>
    rcases Outcome.bind_eq_ok.1 found with ⟨whole, read, found⟩
    rcases Outcome.bind_eq_ok.1 found with ⟨close, closed, same⟩
    cases same
    rcases supplied.cons rfl with ⟨place, more, rfl, behind⟩
    rcases (below inner (Nat.lt_succ_self _)).disjunction n whole read more behind with
      ⟨rest, given, onward⟩
    rcases onward.expect closed rfl with ⟨place', after, rfl, last⟩
    exact ⟨after, gives_parens given place, last⟩
  case h_10 =>
    cases found
    rcases supplied.cons rfl with ⟨place, _, rfl, behind⟩
    rcases behind.cons rfl with ⟨place', _, rfl, further⟩
    rcases further.cons rfl with ⟨place'', more, rfl, last⟩
    exact ⟨more, gives_call_nil _ _ _, last⟩
  case h_11 name position position' inner _ =>
    rcases Outcome.bind_eq_ok.1 found with ⟨args, read, found⟩
    rcases Outcome.bind_eq_ok.1 found with ⟨close, closed, same⟩
    cases same
    rcases supplied.cons rfl with ⟨place, _, rfl, behind⟩
    rcases behind.cons rfl with ⟨place', more, rfl, further⟩
    have less : inner.length < (⟨.identifier name, position⟩ ::
        ⟨.symbol .leftParen, position'⟩ :: inner : List Located).length := by
      simp only [List.length_cons]
      omega
    rcases (below inner less).arguments n args read more further with ⟨rest, given, onward⟩
    rcases onward.expect closed rfl with ⟨place'', after, rfl, last⟩
    exact ⟨after, gives_call given place place', last⟩
  case h_12 =>
    rcases Outcome.bind_eq_ok.1 found with ⟨⟨column, after⟩, read, same⟩
    cases same
    rcases supplied.cons rfl with ⟨place, _, rfl, behind⟩
    rcases behind.cons rfl with ⟨place', _, rfl, further⟩
    rcases further.expectIdentifier read with ⟨place'', more, rfl, last⟩
    exact ⟨more, gives_qualified _ _ _, last⟩
  case h_13 name position rest _ call dot =>
    cases found
    rcases supplied.cons rfl with ⟨place, more, rfl, behind⟩
    have alone : ahead (Level.goesOn .operand) rest = false := by
      refine ahead_eq_false fun token position rest same => ?_
      cases token with
      | symbol sign =>
          cases sign <;> first | rfl | exact absurd same (call _ _) | exact absurd same (dot _ _)
      | keyword word => cases word <;> rfl
      | _ => rfl
    exact ⟨more, gives_column ((behind.ahead_eq goesOn_of_startsOperand).trans alone) place, behind⟩
  case h_14 => cases found

/-- A list between parentheses is read with the reader of a shorter list of tokens. -/
theorem readsSupplied_listInParens :
    ReadsSupplied supply (suppliedEach supply) listInParens tokens := by
  intro n parsed found other supplied
  rw [listInParens] at found
  rcases Outcome.bind_eq_ok.1 found with ⟨⟨inner, less⟩, opened, found⟩
  rcases Outcome.bind_eq_ok.1 found with ⟨items, read, found⟩
  rcases Outcome.bind_eq_ok.1 found with ⟨close, closed, same⟩
  cases same
  rcases supplied.expect opened rfl with ⟨place, more, rfl, behind⟩
  rcases (below inner less).expressions n items read more behind with ⟨rest, given, onward⟩
  rcases onward.expect closed rfl with ⟨place', after, rfl, last⟩
  exact ⟨after, gives_listInParens given place, last⟩

/-- A comparison is read with the reader of one operand and the readers of shorter lists. -/
theorem readsSupplied_comparison :
    ReadsSupplied supply (Expr.supplied supply) comparison tokens := by
  intro n parsed found other supplied
  rw [comparison] at found
  rcases Outcome.bind_eq_ok.1 found with ⟨left, read, found⟩
  rcases readsSupplied_primary below n left read other supplied with ⟨front, given, behind⟩
  -- What follows the operand is shorter than the whole.
  have shorter {rest : List Located} (le : rest.length ≤ left.rest.length) :
      rest.length < tokens.length := Nat.lt_of_le_of_lt le left.shorter
  dsimp only at found
  split at found
  case h_1 next =>
    rcases Outcome.bind_eq_ok.1 found with ⟨close, closed, same⟩
    cases same
    rw [next] at behind
    rcases behind.cons rfl with ⟨place, _, rfl, further⟩
    rcases further.cons rfl with ⟨place', _, rfl, onward⟩
    rcases onward.expect closed rfl with ⟨place'', after, rfl, last⟩
    exact ⟨after, gives_isNotNull given, last⟩
  case h_2 next =>
    rcases Outcome.bind_eq_ok.1 found with ⟨close, closed, same⟩
    cases same
    rw [next] at behind
    rcases behind.cons rfl with ⟨place, _, rfl, further⟩
    rcases further.expect closed rfl with ⟨place', after, rfl, last⟩
    exact ⟨after, gives_isNull given, last⟩
  case h_3 rest next =>
    rcases Outcome.bind_eq_ok.1 found with ⟨items, readMore, same⟩
    cases same
    rw [next] at behind shorter
    rcases behind.cons rfl with ⟨place, _, rfl, further⟩
    rcases further.cons rfl with ⟨place', more, rfl, onward⟩
    have list : ReadsSupplied supply (suppliedEach supply) listInParens rest :=
      readsSupplied_listInParens fun inner less =>
        below inner (Nat.lt_trans less (shorter (Nat.le_add_right rest.length 2)))
    rcases list left.placeholders items readMore more onward with ⟨after, listed, last⟩
    exact ⟨after, gives_notInList given listed, last⟩
  case h_4 rest next =>
    rcases Outcome.bind_eq_ok.1 found with ⟨items, readMore, same⟩
    cases same
    rw [next] at behind shorter
    rcases behind.cons rfl with ⟨place, more, rfl, further⟩
    have list : ReadsSupplied supply (suppliedEach supply) listInParens rest :=
      readsSupplied_listInParens fun inner less =>
        below inner (Nat.lt_trans less (shorter (Nat.le_succ rest.length)))
    rcases list left.placeholders items readMore more further with ⟨after, listed, last⟩
    exact ⟨after, gives_inList given listed, last⟩
  case h_5 token position rest _ notIs notNot notIn next =>
    rw [next] at shorter
    split at found
    · rename_i op compares
      rcases Outcome.bind_eq_ok.1 found with ⟨right, readRight, same⟩
      cases same
      rw [next] at behind
      cases eq_symbol_of_compareOp? compares
      rcases behind.cons rfl with ⟨place, more, rfl, further⟩
      rcases (below rest (shorter (Nat.le_succ _))).primary left.placeholders right readRight more
        further with ⟨after, second, last⟩
      exact ⟨after, gives_compare given second, last⟩
    · rename_i compares
      cases found
      refine ⟨front, ?_, behind⟩
      rw [next] at behind
      cases own : token.isPlaceholder with
      | true =>
          -- No operand goes on with a placeholder, nor with a literal in its place.
          cases token <;> cases own
          exact gives_comparison given (behind.ahead_eq goesOn_of_startsOperand)
      | false =>
          rcases behind.cons own with ⟨place, more, rfl, further⟩
          refine gives_alone given notIs notIn (fun place' inner same => ?_) compares
          subst same
          rcases further.uncons (by rintro ⟨⟩) with ⟨last, before, rfl⟩
          exact notNot last before rfl
  case h_6 next =>
    cases found
    refine ⟨front, ?_, behind⟩
    rw [next] at behind
    cases behind.nil
    exact gives_comparison given rfl

theorem readsSupplied_negation :
    ReadsSupplied supply (Expr.supplied supply) Sql.negation tokens := by
  intro n parsed found other supplied
  rw [Sql.negation.eq_def] at found
  split at found
  · rename_i position rest
    rcases Outcome.bind_eq_ok.1 found with ⟨operand, read, same⟩
    cases same
    rcases supplied.cons rfl with ⟨place, more, rfl, behind⟩
    rcases (below rest (Nat.lt_succ_self _)).negation n operand read more behind with
      ⟨after, given, last⟩
    exact ⟨after, gives_not given place, last⟩
  · rcases readsSupplied_comparison below n parsed found other supplied with ⟨rest, given, last⟩
    exact ⟨rest, gives_negation given, last⟩

/-- Operands that are joined are read with the reader of one and the readers of shorter lists. -/
theorem joinsSupplied_joint {joint : Joint}
    (operand : ReadsSupplied supply (Expr.supplied supply) joint.operand tokens) :
    JoinsSupplied supply joint tokens := by
  intro before n parsed found other supplied
  rcases joins_of_read found with ⟨own, read, joins⟩
  rcases operand n own read other supplied with ⟨front, given, behind⟩
  -- The operand behind is read from fewer tokens.
  have onward (left : Expr) (last : List Located) (whole : Expr) (m k : Nat)
      (same : Supplied supply m own.rest front) (joins : Joins joint left own.rest m whole last k) :
      ∃ rest, Joins joint (left.supplied supply) front (supply.kept m) (whole.supplied supply) rest
          (supply.kept k) ∧ Supplied supply k last rest := by
    generalize after : own.rest = ending at joins same
    cases joins with
    | done none =>
        exact ⟨front, .done ((same.ahead_eq (isWord_of_startsOperand joint)).trans none), same⟩
    | more readMore =>
        rename_i position rest
        rcases readMore with ⟨shorter, readMore⟩
        rcases same.cons rfl with ⟨place, more, rfl, further⟩
        have less := own.length_lt_of_rest after
        rcases (below rest less).joint joint (some left) _ _ readMore more further with
          ⟨last, readOn, final⟩
        exact ⟨last, .more readOn, final⟩
  rcases onward _ _ _ _ _ behind joins with ⟨rest, joins, last⟩
  rw [supplied_joinLeft] at joins
  exact ⟨rest, gives_read joint given joins, last⟩

/-- The operands of `AND` are single, and those of `OR` are what `AND` joins. -/
theorem joinsSupplied (joint : Joint) : JoinsSupplied supply joint tokens := by
  have conjunct : ReadsSupplied supply (Expr.supplied supply) Joint.and.operand tokens :=
    readsSupplied_negation below
  have disjunct : ReadsSupplied supply (Expr.supplied supply) Joint.or.operand tokens :=
    joinsSupplied_joint below conjunct none
  cases joint with
  | and => exact joinsSupplied_joint below conjunct
  | or => exact joinsSupplied_joint below disjunct

theorem readsSupplied_expressions :
    ReadsSupplied supply (suppliedEach supply) Sql.expressions tokens := by
  intro n parsed found other supplied
  rw [Sql.expressions] at found
  rcases Outcome.bind_eq_ok.1 found with ⟨operand, read, found⟩
  rcases joinsSupplied below .or none n operand read other supplied with ⟨front, given, behind⟩
  dsimp only at found
  split at found
  · rename_i position rest next
    rcases Outcome.bind_eq_ok.1 found with ⟨others, readMore, same⟩
    cases same
    rw [next] at behind
    rcases behind.cons rfl with ⟨place, more, rfl, further⟩
    have less := operand.length_lt_of_rest next
    rcases (below rest less).expressions _ others readMore more further with
      ⟨after, givenMore, last⟩
    exact ⟨after, gives_expressions_cons given givenMore, last⟩
  · rename_i none
    cases found
    have stop := (behind.ahead_eq isComma_of_startsOperand).trans (isComma_eq_false none)
    exact ⟨front, gives_expressions_last given stop, behind⟩

/-- One argument of a call: the star is alone in starting no expression. -/
theorem readsSupplied_argument :
    ReadsSupplied supply (suppliedEach supply) argument tokens := by
  intro n parsed found other supplied
  rw [argument.eq_def] at found
  split at found
  · rename_i position rest
    rcases supplied.cons rfl with ⟨place, more, rfl, behind⟩
    rw [argument]
    exact castAt_supplied _ behind found
  · rcases Outcome.bind_eq_ok.1 found with ⟨operand, read, found⟩
    rcases joinsSupplied below .or none n operand read other supplied with ⟨front, given, behind⟩
    rcases given with ⟨less, given⟩
    change Sql.disjunction none other _ = _ at given
    rcases castAt_supplied less behind found with ⟨last, cast, further⟩
    refine ⟨last, ?_, further⟩
    have start := startsNoExpression_of_disjunction given
    rw [argument.eq_def]
    split
    · cases start
    · rw [given]
      exact cast

theorem readsSupplied_arguments :
    ReadsSupplied supply (suppliedEach supply) Sql.arguments tokens := by
  intro n parsed found other supplied
  rw [Sql.arguments] at found
  rcases Outcome.bind_eq_ok.1 found with ⟨argument, read, found⟩
  rcases readsSupplied_argument below n argument read other supplied with ⟨front, given, behind⟩
  dsimp only at found
  split at found
  · rename_i position rest next
    rcases Outcome.bind_eq_ok.1 found with ⟨others, readMore, same⟩
    cases same
    rw [next] at behind
    rcases behind.cons rfl with ⟨place, more, rfl, further⟩
    have less := argument.length_lt_of_rest next
    rcases (below rest less).arguments _ others readMore more further with
      ⟨after, givenMore, last⟩
    refine ⟨after, ?_, last⟩
    have own := gives_arguments_cons given givenMore
    rwa [← suppliedEach_append] at own
  · rename_i none
    cases found
    have stop := (behind.ahead_eq isComma_of_startsOperand).trans (isComma_eq_false none)
    exact ⟨front, gives_arguments_last given stop, behind⟩

end SuppliesExpressions

/-- All readers of the parts of expressions give the same from tokens with literals: those of one
list of tokens by those of the shorter ones. -/
theorem suppliesExpressions (supply : Supply) (tokens : List Located) :
    SuppliesExpressions supply tokens := by
  induction length : tokens.length using Nat.strong_induction_on generalizing tokens with
  | _ length' ih =>
      subst length
      have below (rest : List Located) (less : rest.length < tokens.length) :
          SuppliesExpressions supply rest := ih rest.length less rest rfl
      exact {
        primary := SuppliesExpressions.readsSupplied_primary below
        negation := SuppliesExpressions.readsSupplied_negation below
        joint := SuppliesExpressions.joinsSupplied below
        expressions := SuppliesExpressions.readsSupplied_expressions below
        arguments := SuppliesExpressions.readsSupplied_arguments below }

end Expressions

/-! ## Readers of SELECT -/

theorem readsSupplied_column (tokens : List Located) :
    ReadsSupplied supply (Column.supplied supply) column tokens := by
  intro n parsed found other supplied
  rw [column.eq_def] at found
  split at found
  · cases found
    rcases supplied.cons rfl with ⟨place, more, rfl, behind⟩
    refine ⟨more, ?_, behind⟩
    rw [column]
    exact ⟨_, rfl⟩
  · rcases Outcome.bind_eq_ok.1 found with ⟨operand, read, found⟩
    rcases (suppliesExpressions supply tokens).primary n operand read other supplied with
      ⟨front, given, behind⟩
    have named (label : Option String) :
        Column.ofExpr (operand.value.supplied supply) label =
          (Column.ofExpr operand.value label).supplied supply :=
      (Column.supplied_ofExpr supply operand.value label).symm
    dsimp only at found
    split at found
    · rename_i next
      rcases Outcome.bind_eq_ok.1 found with ⟨⟨label, after⟩, read, same⟩
      cases same
      rw [next] at behind
      rcases behind.cons rfl with ⟨place, more, rfl, further⟩
      rcases further.expectIdentifier read with ⟨place', last, rfl, onward⟩
      exact ⟨last, named (some label) ▸ gives_labelled given, onward⟩
    · rename_i label position rest next
      cases found
      rw [next] at behind
      rcases behind.cons rfl with ⟨place, more, rfl, further⟩
      exact ⟨more, named (some label) ▸ gives_named given, further⟩
    · rename_i noAs noName
      cases found
      have none := (behind.ahead_eq isLabel_of_startsOperand).trans (isLabel_eq_false noAs noName)
      exact ⟨front, named Option.none ▸ gives_unlabelled given none, behind⟩

theorem readsSupplied_columns (tokens : List Located) :
    ReadsSupplied supply (List.map (Column.supplied supply)) columns tokens := by
  intro n
  fun_induction columns tokens n with
  | case1 tokens n ih =>
      intro parsed found other supplied
      rcases Outcome.bind_eq_ok.1 found with ⟨entry, read, found⟩
      rcases readsSupplied_column tokens n entry read other supplied with ⟨front, given, behind⟩
      dsimp only at found
      split at found
      · rename_i position rest next
        rcases Outcome.bind_eq_ok.1 found with ⟨others, readMore, same⟩
        cases same
        rw [next] at behind
        rcases behind.cons rfl with ⟨place, more, rfl, further⟩
        rcases ih entry position rest next others readMore more further with
          ⟨after, givenMore, last⟩
        exact ⟨after, gives_columns_cons given givenMore, last⟩
      · rename_i none
        cases found
        have stop := (behind.ahead_eq isComma_of_startsOperand).trans (isComma_eq_false none)
        exact ⟨front, gives_columns_last given stop, behind⟩

section Clauses

variable {α β : Type} {tokens other : List Located} {before : Parsed α tokens}

/-- A condition behind `WHERE` is read with the literals in their places. -/
theorem filterAt_supplied {parsed : Parsed (α × Option Expr) tokens}
    (found : filterAt before = .ok parsed) (moved : Parsed β other)
    (supplied : Supplied supply before.placeholders before.rest moved.rest)
    (count : moved.placeholders = supply.kept before.placeholders) :
    parsed.value.1 = before.value ∧ ∃ rest,
      Gives (filterAt moved) (moved.value, parsed.value.2.map (Expr.supplied supply)) rest
          (supply.kept parsed.placeholders) ∧
        Supplied supply parsed.placeholders parsed.rest rest := by
  rcases moved with ⟨value, front, m, less⟩
  cases count
  unfold filterAt at found
  split at found
  · rename_i next
    rcases Outcome.bind_eq_ok.1 found with ⟨filter, read, same⟩
    cases same
    rw [next] at supplied
    rcases supplied.cons rfl with ⟨place, more, rfl, behind⟩
    rcases (suppliesExpressions supply _).disjunction _ filter read more behind with
      ⟨rest, given, further⟩
    exact ⟨rfl, rest, given.map _ _, further⟩
  · rename_i none
    cases found
    refine ⟨rfl, front, ?_, supplied⟩
    unfold filterAt
    dsimp only
    split
    · rcases supplied.uncons (by rintro ⟨⟩) with ⟨_, _, same⟩
      exact absurd same (none _ _)
    · exact ⟨_, rfl⟩

/-- A limit is read the same. -/
theorem limitAt_supplied {parsed : Parsed (α × Option Nat) tokens}
    (found : limitAt before = .ok parsed) (moved : Parsed β other)
    (supplied : Supplied supply before.placeholders before.rest moved.rest)
    (count : moved.placeholders = supply.kept before.placeholders) :
    parsed.value.1 = before.value ∧ ∃ rest,
      Gives (limitAt moved) (moved.value, parsed.value.2) rest
          (supply.kept parsed.placeholders) ∧
        Supplied supply parsed.placeholders parsed.rest rest := by
  rcases moved with ⟨value, front, m, less⟩
  cases count
  unfold limitAt at found
  split at found
  · rename_i next
    cases found
    rw [next] at supplied
    rcases supplied.cons rfl with ⟨place, more, rfl, behind⟩
    rcases behind.cons rfl with ⟨place', last, rfl, further⟩
    exact ⟨rfl, last, ⟨_, rfl⟩, further⟩
  · cases found
  · rename_i none
    cases found
    refine ⟨rfl, front, ?_, supplied⟩
    unfold limitAt
    dsimp only
    split
    case h_1 | h_2 =>
      rcases supplied.uncons (by rintro ⟨⟩) with ⟨_, _, same⟩
      exact absurd same (none _ _)
    case h_3 => exact ⟨_, rfl⟩

/-- A name behind a nested SELECT is dropped all the same. -/
theorem skipLabel_supplied {parsed : Parsed α tokens} (found : skipLabel before = .ok parsed)
    (moved : Parsed β other)
    (supplied : Supplied supply before.placeholders before.rest moved.rest)
    (count : moved.placeholders = supply.kept before.placeholders) :
    parsed.value = before.value ∧ ∃ rest,
      Gives (skipLabel moved) moved.value rest (supply.kept parsed.placeholders) ∧
        Supplied supply parsed.placeholders parsed.rest rest := by
  rcases moved with ⟨value, front, m, less⟩
  cases count
  unfold skipLabel at found
  split at found
  · rename_i next
    rcases Outcome.bind_eq_ok.1 found with ⟨⟨label, after⟩, named, same⟩
    cases same
    rw [next] at supplied
    rcases supplied.cons rfl with ⟨place, more, rfl, behind⟩
    rcases behind.expectIdentifier named with ⟨place', last, rfl, further⟩
    exact ⟨rfl, last, ⟨_, rfl⟩, further⟩
  · rename_i next
    cases found
    rw [next] at supplied
    rcases supplied.cons rfl with ⟨place, more, rfl, behind⟩
    exact ⟨rfl, more, ⟨_, rfl⟩, behind⟩
  · rename_i noAs noName
    cases found
    have none := (supplied.ahead_eq isLabel_of_startsOperand).trans (isLabel_eq_false noAs noName)
    exact ⟨rfl, front, gives_skipLabel none, supplied⟩

end Clauses

/-- A SELECT is read from tokens with literals, with the literals in their places, up to the
positions of its sources. -/
def SuppliesSelect (supply : Supply) (tokens : List Located) : Prop :=
  ∀ n parsed, select tokens n = .ok parsed → ∀ other, Supplied supply n tokens other →
    ∃ again rest, Gives (select other (supply.kept n)) again rest
        (supply.kept parsed.placeholders) ∧
      again.unplaced = (parsed.value.supplied supply).unplaced ∧
      Supplied supply parsed.placeholders parsed.rest rest

/-- A source is read with the literals in their places when the SELECTs inside it are. -/
theorem source_supplied {tokens : List Located}
    (below : ∀ rest : List Located, rest.length < tokens.length → SuppliesSelect supply rest)
    {n : Nat} {parsed : Parsed (Source Select) tokens} (found : source tokens n = .ok parsed)
    {other : List Located} (supplied : Supplied supply n tokens other) :
    ∃ again rest, Gives (source other (supply.kept n)) again rest
        (supply.kept parsed.placeholders) ∧
      again.unplaced = (parsed.value.supplied supply).unplaced ∧
      Supplied supply parsed.placeholders parsed.rest rest := by
  rw [source.eq_def] at found
  split at found
  · rename_i position inner
    rcases supplied.cons rfl with ⟨place, more, rfl, behind⟩
    rcases Outcome.bind_eq_ok.1 found with ⟨nested, read, found⟩
    rcases Outcome.bind_eq_ok.1 found with ⟨⟨rest, closed⟩, closes, found⟩
    rcases below inner (Nat.lt_succ_self _) n nested read more behind with
      ⟨again, front, ⟨shorter, given⟩, same, further⟩
    rcases further.expect closes rfl with ⟨place', last, rfl, onward⟩
    have less : last.length < (⟨.symbol .leftParen, place⟩ :: more : List Located).length :=
      Nat.lt_succ_of_lt (Nat.lt_of_succ_lt shorter)
    dsimp only at found onward
    rcases skipLabel_supplied found
        ⟨Source.nested again, last, supply.kept nested.placeholders, less⟩ onward rfl with
      ⟨value, after, dropped, ends⟩
    refine ⟨.nested again, after, ?_, ?_, ends⟩
    · rw [source, given, Outcome.ok_bind, expect, if_pos rfl]
      exact dropped
    · rw [value, Source.supplied, Source.unplaced, Source.unplaced, same]
  · rcases Outcome.bind_eq_ok.1 found with ⟨⟨name, rest, less⟩, named, same⟩
    cases same
    rcases supplied.expectIdentifier named with ⟨place, more, rfl, behind⟩
    refine ⟨.table name, more, ?_, rfl, behind⟩
    rw [source]
    · exact ⟨_, rfl⟩
    · intro position inner same
      cases same

/-- A SELECT is read with the literals in their places when its source is. -/
theorem suppliesSelect_of_source {tokens : List Located}
    (below : ∀ rest : List Located, rest.length < tokens.length → SuppliesSelect supply rest) :
    SuppliesSelect supply tokens := by
  intro n parsed found other supplied
  rw [select.eq_def] at found
  rcases Outcome.bind_eq_ok.1 found with ⟨⟨start, opened⟩, opens, found⟩
  rcases Outcome.bind_eq_ok.1 found with ⟨entries, listed, found⟩
  rcases Outcome.bind_eq_ok.1 found with ⟨⟨behind, within⟩, reads, found⟩
  rcases Outcome.bind_eq_ok.1 found with ⟨origin, from_, found⟩
  rcases Outcome.bind_eq_ok.1 found with ⟨filtered, filter, found⟩
  rcases Outcome.bind_eq_ok.1 found with ⟨limited, limit, same⟩
  cases same
  rcases supplied.expect opens rfl with ⟨place, inner, rfl, suppliedStart⟩
  rcases readsSupplied_columns start n entries listed inner suppliedStart with
    ⟨front, ⟨lessList, givenList⟩, suppliedColumns⟩
  rcases suppliedColumns.expect reads rfl with ⟨place', more, rfl, suppliedBehind⟩
  have less : behind.length < tokens.length :=
    Nat.lt_trans within (Nat.lt_trans entries.shorter opened)
  rcases source_supplied (fun rest shorter => below rest (Nat.lt_trans shorter less)) from_
    suppliedBehind with ⟨again, after, ⟨lessSource, givenSource⟩, sameSource, suppliedSource⟩
  rcases filterAt_supplied filter
      ⟨again, after, supply.kept origin.placeholders, lessSource⟩ suppliedSource rfl with
    ⟨keptSource, last, ⟨lessFilter, givenFilter⟩, suppliedFilter⟩
  rcases limitAt_supplied limit
      ⟨(again, filtered.value.2.map (Expr.supplied supply)), last,
        supply.kept filtered.placeholders, lessFilter⟩ suppliedFilter rfl with
    ⟨keptFilter, ending, ⟨lessLimit, givenLimit⟩, suppliedLimit⟩
  rcases more with _ | ⟨⟨first, offset⟩, more⟩
  · exact absurd lessSource (Nat.not_lt_zero _)
  refine ⟨⟨entries.value.map (Column.supplied supply), again, offset,
    filtered.value.2.map (Expr.supplied supply), limited.value.2⟩, ending, ?_, ?_, suppliedLimit⟩
  · rw [select, expect, if_pos rfl, Outcome.ok_bind]
    dsimp only
    rw [givenList, Outcome.ok_bind, expect, if_pos rfl, Outcome.ok_bind]
    dsimp only
    rw [givenSource, Outcome.ok_bind, givenFilter, Outcome.ok_bind, givenLimit]
    exact ⟨_, rfl⟩
  · rw [Select.unplaced_eq, Select.unplaced_eq, Select.supplied_eq]
    simp [Parsed.widen, Parsed.map, keptFilter, keptSource, sameSource]

/-- Every SELECT is read with the literals in their places: by induction on the tokens, the source
of one by the SELECT inside it and that one by its source. -/
theorem suppliesSelect (supply : Supply) (tokens : List Located) :
    SuppliesSelect supply tokens := by
  induction length : tokens.length using Nat.strong_induction_on generalizing tokens with
  | _ length' ih =>
      subst length
      exact suppliesSelect_of_source fun rest less => ih rest.length less rest rfl

/-! ## Whole texts -/

section Texts

variable {tokens other : List Located} {n : Nat}

theorem expectEnd_supplied (supplied : Supplied supply n tokens other)
    (ended : expectEnd tokens = .ok ()) : expectEnd other = .ok () := by
  unfold expectEnd at ended
  split at ended
  · rcases supplied.cons rfl with ⟨place, more, rfl, -⟩
    rfl
  · cases supplied.nil
    rfl
  · cases ended

theorem atEnd_supplied (supplied : Supplied supply n tokens other) (atEnd : AtEnd tokens) :
    AtEnd other := by
  rcases atEnd with ended | ⟨position, rest, rfl, ended⟩
  · exact .inl (expectEnd_supplied supplied ended)
  · rcases supplied.cons rfl with ⟨place, more, rfl, behind⟩
    exact .inr ⟨place, more, rfl, expectEnd_supplied behind ended⟩

variable {text : String}

/-- A condition is read from a text that has the literals for placeholders of its tokens. -/
theorem parseCriteria_of_supplied {offset : Nat} {whole : Parsed Expr tokens}
    (read : expression tokens 0 = .ok whole) (ended : expectEnd whole.rest = .ok ())
    (supplied : Supplied supply 0 tokens other) (tokenized : tokenize text offset = .ok other) :
    parseCriteria text offset = .ok (whole.value.supplied supply) := by
  rcases (suppliesExpressions supply tokens).disjunction 0 whole read other supplied with
    ⟨rest, ⟨less, reread⟩, behind⟩
  have closing : expectEnd rest = .ok () := expectEnd_supplied behind ended
  change disjunction none other 0 = _ at reread
  rw [parseCriteria, tokenized, Outcome.ok_bind, expression, reread]
  change (do expectEnd rest; return whole.value.supplied supply) = _
  rw [closing]
  rfl

/-- A SELECT is read from a text that has the literals for placeholders of its tokens, up to the
positions of its sources. -/
theorem parseSelect_of_supplied {whole : Parsed Select tokens}
    (read : select tokens 0 = .ok whole) (atEnd : AtEnd whole.rest)
    (supplied : Supplied supply 0 tokens other) (tokenized : tokenize text 0 = .ok other) :
    ∃ again, parseSelect text = .ok again ∧
      again.unplaced = (whole.value.supplied supply).unplaced := by
  rcases suppliesSelect supply tokens 0 whole read other supplied with
    ⟨again, rest, ⟨less, reread⟩, same, behind⟩
  exact ⟨again, parseSelect_eq_ok_iff.2
    ⟨other, _, tokenized, reread, atEnd_supplied behind atEnd, rfl⟩, same⟩

end Texts

end RecordQuery.Sql
