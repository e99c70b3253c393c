import RecordQuery.Proofs.Sql.Written

/-!
# Rules of the readers

The readers of the grammar are presented as rules: what a reader gives is told from what the readers
that it calls give, and from the token behind. An expression that stands at a tight place stands at
all looser ones, as long as no token follows that an expression there goes on with.
-/

namespace RecordQuery.Sql

/-! ## What readers give -/

/-- A reader gives a value, leaves some tokens and has counted so many placeholders. -/
def Gives {α : Type} {tokens : List Located} (found : QueryResult (Parsed α tokens)) (value : α)
    (rest : List Located) (count : Nat) : Prop :=
  ∃ shorter, found = .ok ⟨value, rest, count, shorter⟩

/-- Whether a token of some kind stands at the front. -/
def ahead (kind : Token → Bool) (tokens : List Located) : Bool :=
  tokens.head?.any fun located => kind located.token

/-- No token of a kind stands at the front where none of the kind could. -/
theorem ahead_eq_false {kind : Token → Bool} {tokens : List Located}
    (none : ∀ token position rest, tokens = ⟨token, position⟩ :: rest → kind token = false) :
    ahead kind tokens = false := by
  rcases tokens with _ | ⟨⟨token, position⟩, rest⟩
  · rfl
  · exact none token position rest rfl

namespace Gives

variable {α β : Type} {tokens longer rest : List Located} {found : QueryResult (Parsed α tokens)}
  {value : α} {m : Nat}

theorem widen (given : Gives found value rest m) (less : tokens.length < longer.length) :
    Gives (do return (← found).widen less) value rest m := by
  rcases given with ⟨shorter, rfl⟩
  exact ⟨_, rfl⟩

theorem map (given : Gives found value rest m) (image : α → β)
    (less : tokens.length < longer.length) :
    Gives (do return ((← found).map image).widen less) (image value) rest m := by
  rcases given with ⟨shorter, rfl⟩
  exact ⟨_, rfl⟩

end Gives

/-! ## Operands joined by `OR` and `AND` -/

/-- The two words that join any number of operands. -/
inductive Joint where
  | or
  | and

namespace Joint

def op : Joint → BinaryOp
  | .or => .or
  | .and => .and

def word : Joint → Keyword
  | .or => .or_
  | .and => .and_

/-- Whether a token is the word. -/
def isWord : Joint → Token → Bool
  | .or, .keyword .or_ => true
  | .and, .keyword .and_ => true
  | _, _ => false

/-- The reader of one operand. -/
def operand (joint : Joint) (tokens : List Located) (n : Nat) :
    QueryResult (Parsed Expr tokens) :=
  match joint with
  | .or => conjunction none tokens n
  | .and => negation tokens n

/-- The reader of all operands. -/
def read (joint : Joint) (before : Option Expr) (tokens : List Located) (n : Nat) :
    QueryResult (Parsed Expr tokens) :=
  match joint with
  | .or => disjunction before tokens n
  | .and => conjunction before tokens n

end Joint

/-- What becomes of the operands read so far with the tokens behind them: either no word follows, or
more operands are joined. -/
inductive Joins (joint : Joint) (left : Expr) :
    List Located → Nat → Expr → List Located → Nat → Prop where
  | done {rest : List Located} {m : Nat} (other : ahead joint.isWord rest = false) :
      Joins joint left rest m left rest m
  | more {position m k : Nat} {rest last : List Located} {whole : Expr}
      (read : Gives (joint.read (some left) rest m) whole last k) :
      Joins joint left (⟨.keyword joint.word, position⟩ :: rest) m whole last k

variable {tokens rest last : List Located} {n m k : Nat} {left right expr whole : Expr}
  {before : Option Expr} {position : Nat}

/-- An operand is joined to those before it, and to those behind it. -/
theorem gives_read (joint : Joint) (own : Gives (joint.operand tokens n) right rest m)
    (joins : Joins joint (joinLeft joint.op before right) rest m whole last k) :
    Gives (joint.read before tokens n) whole last k := by
  rcases own with ⟨shorter, own⟩
  cases joint with
  | or =>
      change conjunction none tokens n = _ at own
      change Gives (disjunction before tokens n) whole last k
      rw [disjunction, own]
      cases joins with
      | done other =>
          rw [Outcome.ok_bind]
          dsimp only
          split
          · cases other
          · exact ⟨_, rfl⟩
      | more read => exact read.widen _
  | and =>
      change negation tokens n = _ at own
      change Gives (conjunction before tokens n) whole last k
      rw [conjunction, own]
      cases joins with
      | done other =>
          rw [Outcome.ok_bind]
          dsimp only
          split
          · cases other
          · exact ⟨_, rfl⟩
      | more read => exact read.widen _

theorem isWord_eq_false {joint : Joint} {tokens : List Located}
    (none : ∀ position rest, tokens = ⟨.keyword joint.word, position⟩ :: rest → False) :
    ahead joint.isWord tokens = false := by
  refine ahead_eq_false fun token position rest same => ?_
  cases token with
  | keyword word =>
      cases joint <;> cases word <;> first | rfl | exact absurd same (none _ _)
  | _ => cases joint <;> rfl

/-- What is read at a joint is one operand with what becomes of it. -/
theorem joins_of_read {joint : Joint} {before : Option Expr} {tokens : List Located} {n : Nat}
    {parsed : Parsed Expr tokens} (found : joint.read before tokens n = .ok parsed) :
    ∃ own, joint.operand tokens n = .ok own ∧
      Joins joint (joinLeft joint.op before own.value) own.rest own.placeholders
        parsed.value parsed.rest parsed.placeholders := by
  cases joint with
  | or =>
      change Sql.disjunction before tokens n = .ok parsed at found
      rw [Sql.disjunction] at found
      rcases Outcome.bind_eq_ok.1 found with ⟨own, read, found⟩
      refine ⟨own, read, ?_⟩
      dsimp only at found
      split at found
      · rename_i position rest next
        rcases Outcome.bind_eq_ok.1 found with ⟨whole, readMore, same⟩
        cases same
        change Joins _ _ own.rest _ whole.value whole.rest whole.placeholders
        rw [next]
        exact .more ⟨_, readMore⟩
      · rename_i none
        cases found
        exact .done (isWord_eq_false none)
  | and =>
      change Sql.conjunction before tokens n = .ok parsed at found
      rw [Sql.conjunction] at found
      rcases Outcome.bind_eq_ok.1 found with ⟨own, read, found⟩
      refine ⟨own, read, ?_⟩
      dsimp only at found
      split at found
      · rename_i position rest next
        rcases Outcome.bind_eq_ok.1 found with ⟨whole, readMore, same⟩
        cases same
        change Joins _ _ own.rest _ whole.value whole.rest whole.placeholders
        rw [next]
        exact .more ⟨_, readMore⟩
      · rename_i none
        cases found
        exact .done (isWord_eq_false none)

/-! ## Places -/

/-- The tightest place of the expressions that go on with a token. The words that join operands are
left to the place of the operands. -/
def tightest? : Token → Option Level
  | .symbol .leftParen | .symbol .dot => some .operand
  | .keyword .is_ | .keyword .not_ | .keyword .in_ => some .comparison
  | .keyword .and_ => some .disjunction
  | token => (compareOp? token).map fun _ => .comparison

/-- Whether an expression at a place goes on with a token. -/
def Level.goesOn (place : Level) (token : Token) : Bool :=
  (tightest? token).any fun tightest => decide (place.rank ≤ tightest.rank)

/-- An expression at a tighter place goes on with fewer tokens. -/
theorem ahead_goesOn_mono {place own : Level} (le : place.rank ≤ own.rank)
    {rest : List Located} (other : ahead place.goesOn rest = false) :
    ahead own.goesOn rest = false := by
  cases rest with
  | nil => rfl
  | cons located more =>
      change Option.any _ (tightest? located.token) = false at other ⊢
      cases reach : tightest? located.token with
      | none => rfl
      | some tightest =>
          rw [reach, Option.any_some, decide_eq_false_iff_not] at other
          rw [Option.any_some, decide_eq_false_iff_not]
          omega

/-- An expression that stands at a place is read. Operands that are joined there may go on. -/
def Level.Gives (place : Level) (tokens : List Located) (n : Nat) (expr : Expr)
    (rest : List Located) (m : Nat) : Prop :=
  match place with
  | .disjunction => ∀ whole last k, Joins .or expr rest m whole last k →
      Sql.Gives (Sql.disjunction none tokens n) whole last k
  | .conjunction => ∀ whole last k, Joins .and expr rest m whole last k →
      Sql.Gives (Sql.conjunction none tokens n) whole last k
  | .negation => Sql.Gives (Sql.negation tokens n) expr rest m
  | .comparison => Sql.Gives (Sql.comparison tokens n) expr rest m
  | .operand => Sql.Gives (primary tokens n) expr rest m

theorem goesOn_of_compareOp? {token : Token} {op : CompareOp}
    (compares : compareOp? token = some op) :
    Level.goesOn .comparison token = true := by
  cases token with
  | symbol sign => cases sign <;> first | rfl | cases compares
  | _ => cases compares

/-- One operand that no comparison follows. -/
theorem gives_comparison (own : Gives (primary tokens n) expr rest m)
    (other : ahead (Level.goesOn .comparison) rest = false) :
    Gives (comparison tokens n) expr rest m := by
  rcases own with ⟨shorter, own⟩
  rw [comparison, own, Outcome.ok_bind]
  dsimp only
  split
  case h_5 token position more _ _ _ _ =>
    split
    · rename_i compares
      have goes : (Level.goesOn .comparison token) = true := goesOn_of_compareOp? compares
      exact absurd (goes.symm.trans other) (by decide)
    · exact ⟨_, rfl⟩
  case h_6 => exact ⟨_, rfl⟩
  all_goals cases other

/-! ## First tokens -/

/-- The tokens behind which no expression can stand as an operand. -/
def startsNone : Token → Bool
  | .symbol .star | .symbol .rightParen | .keyword .not_ => true
  | _ => false

/-- No operand starts with such a token. -/
theorem startsNone_of_primary {parsed : Parsed Expr tokens}
    (found : primary tokens n = .ok parsed) : ahead startsNone tokens = false := by
  rw [primary.eq_def] at found
  split at found <;> first | rfl | cases found

/-- No operand starts with `NOT`. -/
theorem gives_negation (own : Gives (comparison tokens n) expr rest m) :
    Gives (negation tokens n) expr rest m := by
  rw [negation.eq_def]
  split
  · rcases own with ⟨shorter, own⟩
    rw [comparison] at own
    rcases Outcome.bind_eq_ok.1 own with ⟨left, read, -⟩
    cases startsNone_of_primary read
  · exact own

/-! ## Looser places -/

/-- The place that takes what a place takes and the next looser operator. -/
def Level.looser : Level → Level
  | .operand => .comparison
  | .comparison => .negation
  | .negation => .conjunction
  | .conjunction | .disjunction => .disjunction

/-- Operands joined by `OR` go on with `AND`. -/
theorem ahead_isWord_and (other : ahead (Level.goesOn .disjunction) rest = false) :
    ahead Joint.and.isWord rest = false := by
  rcases rest with _ | ⟨⟨token, position⟩, more⟩
  · rfl
  · cases token with
    | keyword word => cases word <;> first | rfl | cases other
    | _ => rfl

/-- Whether some expression goes on with a token. -/
def continues (token : Token) : Bool := Level.disjunction.goesOn token || Joint.or.isWord token

theorem ahead_continues (other : ahead continues rest = false) :
    ahead (Level.goesOn .disjunction) rest = false ∧ ahead Joint.or.isWord rest = false := by
  cases rest with
  | nil => exact ⟨rfl, rfl⟩
  | cons located more => exact Bool.or_eq_false_iff.1 other

namespace Level.Gives

variable {place own : Level}

/-- An expression of a place is read at the next looser one. -/
theorem looser (gives : own.Gives tokens n expr rest m)
    (other : ahead own.looser.goesOn rest = false) : own.looser.Gives tokens n expr rest m := by
  cases own with
  | operand => exact gives_comparison gives other
  | comparison => exact gives_negation gives
  | negation =>
      intro whole last k joins
      exact gives_read .and gives joins
  | conjunction =>
      intro whole last k joins
      exact gives_read .or (gives _ _ _ (.done (ahead_isWord_and other))) joins
  | disjunction => exact gives

/-- An expression of a place is read at every looser one. -/
theorem loosen (gives : own.Gives tokens n expr rest m) (le : place.rank ≤ own.rank)
    (other : ahead place.goesOn rest = false) : place.Gives tokens n expr rest m := by
  rcases Nat.exists_eq_add_of_le le with ⟨distance, apart⟩
  induction distance generalizing own with
  | zero =>
      have same : own = place := by cases own <;> cases place <;> first | rfl | cases apart
      exact same ▸ gives
  | succ distance ih =>
      have next : own.looser.rank = place.rank + distance := by
        cases own <;> simp [Level.rank, Level.looser] at apart ⊢ <;> omega
      have less : place.rank ≤ own.looser.rank := by omega
      exact ih (gives.looser (ahead_goesOn_mono less other)) less next

/-- An expression that no expression goes on with stands as a whole. -/
theorem complete (gives : own.Gives tokens n expr rest m) (other : ahead continues rest = false) :
    Sql.Gives (Sql.disjunction none tokens n) expr rest m := by
  rcases ahead_continues other with ⟨goesOn, isWord⟩
  have loose : Level.disjunction.Gives tokens n expr rest m := gives.loosen (Nat.zero_le _) goesOn
  exact loose _ _ _ (.done isWord)

end Level.Gives

/-! ## Rules of the other readers -/

section Rules

variable {name : String} {items : List Expr} {op : CompareOp} {others : List Expr}

theorem gives_parens
    (whole : Gives (disjunction none tokens n) expr (⟨.symbol .rightParen, position⟩ :: rest) m)
    (start : Nat) : Gives (primary (⟨.symbol .leftParen, start⟩ :: tokens) n) expr rest m := by
  rcases whole with ⟨shorter, whole⟩
  rw [primary, whole]
  exact ⟨_, rfl⟩

theorem gives_column (other : ahead (Level.goesOn .operand) rest = false) (start : Nat) :
    Gives (primary (⟨.identifier name, start⟩ :: rest) n) (.column name) rest n := by
  rw [primary]
  · exact ⟨_, rfl⟩
  all_goals
    intros
    subst rest
    cases other

/-- A comparison stands for its sign. -/
theorem eq_symbol_of_compareOp? {token : Token} {op : CompareOp}
    (compares : compareOp? token = some op) : token = .symbol op.symbol := by
  cases token with
  | symbol sign => cases sign <;> cases compares <;> rfl
  | _ => cases compares

/-- An operand is read alone where what follows starts no test and no comparison. A `NOT` may
follow, as long as no `IN` stands behind it. -/
theorem gives_alone {tokens rest : List Located} {n m position : Nat} {expr : Expr} {token : Token}
    (own : Gives (primary tokens n) expr (⟨token, position⟩ :: rest) m)
    (notIs : token ≠ .keyword .is_) (notIn : token ≠ .keyword .in_)
    (notNot : ∀ place more, rest = ⟨.keyword .in_, place⟩ :: more → token ≠ .keyword .not_)
    (compares : compareOp? token = none) :
    Gives (comparison tokens n) expr (⟨token, position⟩ :: rest) m := by
  rcases own with ⟨shorter, own⟩
  rw [comparison, own, Outcome.ok_bind]
  dsimp only
  split
  case h_1 same | h_2 same =>
    cases same
    exact absurd rfl notIs
  case h_3 same =>
    cases same
    exact absurd rfl (notNot _ _ rfl)
  case h_4 same =>
    cases same
    exact absurd rfl notIn
  case h_5 same =>
    cases same
    rw [compares]
    exact ⟨_, rfl⟩
  case h_6 same => cases same

theorem gives_compare
    (first : Gives (primary tokens n) left (⟨.symbol op.symbol, position⟩ :: rest) m)
    (second : Gives (primary rest m) right last k) :
    Gives (comparison tokens n) (.binary (.compare op) left right) last k := by
  rcases first with ⟨shorter, first⟩
  rw [comparison, first, Outcome.ok_bind]
  cases op <;> exact second.map _ _

theorem gives_isNull {place : Nat} (own : Gives (primary tokens n) expr
    (⟨.keyword .is_, position⟩ :: ⟨.keyword .null, place⟩ :: rest) m) :
    Gives (comparison tokens n) (.isNull expr) rest m := by
  rcases own with ⟨shorter, own⟩
  rw [comparison, own]
  exact ⟨_, rfl⟩

theorem gives_isNotNull {place last : Nat} (own : Gives (primary tokens n) expr
    (⟨.keyword .is_, position⟩ :: ⟨.keyword .not_, place⟩ :: ⟨.keyword .null, last⟩ :: rest) m) :
    Gives (comparison tokens n) (.isNotNull expr) rest m := by
  rcases own with ⟨shorter, own⟩
  rw [comparison, own]
  exact ⟨_, rfl⟩

theorem gives_listInParens
    (list : Gives (expressions tokens n) items (⟨.symbol .rightParen, position⟩ :: rest) m)
    (start : Nat) :
    Gives (listInParens (⟨.symbol .leftParen, start⟩ :: tokens) n) items rest m := by
  rcases list with ⟨shorter, list⟩
  rw [listInParens, expect, if_pos rfl, Outcome.ok_bind]
  dsimp only
  rw [list]
  exact ⟨_, rfl⟩

theorem gives_inList
    (own : Gives (primary tokens n) expr (⟨.keyword .in_, position⟩ :: rest) m)
    (list : Gives (listInParens rest m) items last k) :
    Gives (comparison tokens n) (.inList expr items false) last k := by
  rcases own with ⟨shorter, own⟩
  rw [comparison, own]
  exact list.map _ _

theorem gives_notInList {place : Nat} (own : Gives (primary tokens n) expr
      (⟨.keyword .not_, position⟩ :: ⟨.keyword .in_, place⟩ :: rest) m)
    (list : Gives (listInParens rest m) items last k) :
    Gives (comparison tokens n) (.inList expr items true) last k := by
  rcases own with ⟨shorter, own⟩
  rw [comparison, own]
  exact list.map _ _

theorem gives_not (own : Gives (negation tokens n) expr rest m) (start : Nat) :
    Gives (negation (⟨.keyword .not_, start⟩ :: tokens) n) (.not expr) rest m := by
  rw [negation]
  exact own.map _ _

/-- Whether a comma stands at the front. -/
def isComma : Token → Bool
  | .symbol .comma => true
  | _ => false

theorem isComma_eq_false {tokens : List Located}
    (none : ∀ position rest, tokens = ⟨.symbol .comma, position⟩ :: rest → False) :
    ahead isComma tokens = false := by
  refine ahead_eq_false fun token position rest same => ?_
  cases token with
  | symbol sign => cases sign <;> first | rfl | exact absurd same (none _ _)
  | _ => rfl

theorem gives_expressions_last (own : Gives (disjunction none tokens n) expr rest m)
    (other : ahead isComma rest = false) : Gives (expressions tokens n) [expr] rest m := by
  rcases own with ⟨shorter, own⟩
  rw [expressions, own, Outcome.ok_bind]
  dsimp only
  split
  · cases other
  · exact ⟨_, rfl⟩

theorem gives_expressions_cons
    (own : Gives (disjunction none tokens n) expr (⟨.symbol .comma, position⟩ :: rest) m)
    (more : Gives (expressions rest m) others last k) :
    Gives (expressions tokens n) (expr :: others) last k := by
  rcases own with ⟨shorter, own⟩
  rw [expressions, own]
  exact more.map _ _

theorem gives_qualified {table column : String} (start middle last : Nat) :
    Gives (primary (⟨.identifier table, start⟩ :: ⟨.symbol .dot, middle⟩ ::
      ⟨.identifier column, last⟩ :: rest) n) (.qualified table column) rest n := by
  rw [primary]
  exact ⟨_, rfl⟩

/-- A whole number, behind a minus where it is negative. -/
theorem gives_integer {front : List Located} {value : Int64}
    (written : front.map (·.token) = (Expr.integer value).write .operand) :
    Gives (primary (front ++ rest) n) (.integer value) rest n := by
  rw [Expr.write] at written
  by_cases negative : value < 0
  · have twice : - -value = value := Int64.neg_neg
    rw [if_pos negative] at written
    rcases exists_cons_of_map_token written with ⟨start, _, rfl, behind⟩
    rcases exists_singleton_of_map_token behind with ⟨middle, rfl⟩
    rw [List.cons_append, List.cons_append, List.nil_append, primary, twice]
    exact ⟨_, rfl⟩
  · rw [if_neg negative] at written
    rcases exists_singleton_of_map_token written with ⟨start, rfl⟩
    rw [List.singleton_append, primary]
    exact ⟨_, rfl⟩

/-- A float, behind a minus where it is negative. -/
theorem gives_float {front : List Located} {value : ExtDouble}
    (written : front.map (·.token) = (Expr.float value).write .operand) :
    Gives (primary (front ++ rest) n) (.float value) rest n := by
  rw [Expr.write] at written
  cases negative : negativeFloat value with
  | true =>
      have twice : (unsignedFloat value).negate = value := by
        rw [unsignedFloat, if_pos negative]
        cases value <;> simp [ExtDouble.negate, Double.negate]
      rw [if_pos negative] at written
      rcases exists_cons_of_map_token written with ⟨start, _, rfl, behind⟩
      rcases exists_singleton_of_map_token behind with ⟨middle, rfl⟩
      rw [List.cons_append, List.cons_append, List.nil_append, primary, twice]
      exact ⟨_, rfl⟩
  | false =>
      have own : unsignedFloat value = value := by
        rw [unsignedFloat, if_neg (by simp [negative])]
      rw [if_neg (by simp [negative]), own] at written
      rcases exists_singleton_of_map_token written with ⟨start, rfl⟩
      rw [List.singleton_append, primary]
      exact ⟨_, rfl⟩

/-! ## Calls -/

/-- No expression starts with such a token. -/
def startsNoExpression : Token → Bool
  | .symbol .star | .symbol .rightParen => true
  | _ => false

theorem startsNoExpression_of_disjunction {parsed : Parsed Expr tokens}
    (found : disjunction before tokens n = .ok parsed) :
    ahead startsNoExpression tokens = false := by
  rw [disjunction] at found
  rcases Outcome.bind_eq_ok.1 found with ⟨operand, read, -⟩
  rw [conjunction] at read
  rcases Outcome.bind_eq_ok.1 read with ⟨inner, read, -⟩
  rw [negation.eq_def] at read
  split at read
  · rfl
  · rw [comparison] at read
    rcases Outcome.bind_eq_ok.1 read with ⟨first, read, -⟩
    have none := startsNone_of_primary read
    rcases tokens with _ | ⟨⟨token, position⟩, more⟩
    · rfl
    · cases token with
      | symbol sign => cases sign <;> first | rfl | cases none
      | _ => rfl

/-- Whether `AS` stands at the front. -/
def isAs : Token → Bool
  | .keyword .as_ => true
  | _ => false

theorem gives_argument (own : Gives (disjunction none tokens n) expr rest m)
    (other : ahead isAs rest = false) : Gives (argument tokens n) [expr] rest m := by
  rcases own with ⟨shorter, own⟩
  have start := startsNoExpression_of_disjunction own
  rw [argument.eq_def]
  split
  · cases start
  · rw [own, Outcome.ok_bind, castAt]
    dsimp only
    split
    · cases other
    · exact ⟨_, rfl⟩

theorem gives_target {target : String} {place : Nat} (own : Gives (disjunction none tokens n) expr
      (⟨.keyword .as_, position⟩ :: ⟨.identifier target, place⟩ :: rest) m) :
    Gives (argument tokens n) [expr, .column target] rest m := by
  rcases own with ⟨shorter, own⟩
  have start := startsNoExpression_of_disjunction own
  rw [argument.eq_def]
  split
  · cases start
  · rw [own, Outcome.ok_bind, castAt]
    exact ⟨_, rfl⟩

theorem gives_arguments_last (own : Gives (argument tokens n) items rest m)
    (other : ahead isComma rest = false) : Gives (arguments tokens n) items rest m := by
  rcases own with ⟨shorter, own⟩
  rw [arguments, own, Outcome.ok_bind]
  dsimp only
  split
  · cases other
  · exact ⟨_, rfl⟩

theorem gives_arguments_cons
    (own : Gives (argument tokens n) items (⟨.symbol .comma, position⟩ :: rest) m)
    (more : Gives (arguments rest m) others last k) :
    Gives (arguments tokens n) (items ++ others) last k := by
  rcases own with ⟨shorter, own⟩
  rw [arguments, own]
  exact more.map _ _

theorem gives_call_nil (start middle stop : Nat) :
    Gives (primary (⟨.identifier name, start⟩ :: ⟨.symbol .leftParen, middle⟩ ::
      ⟨.symbol .rightParen, stop⟩ :: rest) n) (.call name []) rest n := by
  rw [primary]
  exact ⟨_, rfl⟩

theorem gives_call
    (args : Gives (arguments tokens n) items (⟨.symbol .rightParen, position⟩ :: rest) m)
    (start middle : Nat) :
    Gives (primary (⟨.identifier name, start⟩ :: ⟨.symbol .leftParen, middle⟩ :: tokens) n)
      (.call name items) rest m := by
  rcases args with ⟨shorter, args⟩
  rw [primary]
  · rw [args]
    exact ⟨_, rfl⟩
  -- No argument starts with the closing parenthesis.
  · intro stop behind same
    subst same
    rw [arguments] at args
    rcases Outcome.bind_eq_ok.1 args with ⟨first, read, -⟩
    rw [argument] at read
    · rcases Outcome.bind_eq_ok.1 read with ⟨operand, read, -⟩
      cases startsNoExpression_of_disjunction read
    · intro place after same
      cases same

end Rules

end RecordQuery.Sql
