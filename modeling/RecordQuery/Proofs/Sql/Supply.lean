import RecordQuery.Proofs.Sql.ReadSelect
import RecordQuery.Value.Literal

/-!
# Literals supplied for placeholders

A supply has literals for some of the placeholders of a text, by their numbers. It can be applied to
the tokens of the text, where the literals are written for the placeholder tokens, and to what the
text holds, where the literals take the places of the placeholders. Placeholders without a literal
stay, and are numbered by how many of them stay before.
-/

namespace RecordQuery.Sql

/-! ## Supplies -/

/-- An expression that stands for one value. -/
structure Literal where
  expr : Expr
  isLiteral : expr.literal?.isSome

/-- A literal in a column list is kept as an expression. -/
theorem Literal.ofExpr_expr (literal : Literal) (label : Option String) :
    Column.ofExpr literal.expr label = .expression literal.expr label := by
  rcases literal with ⟨expr, isLiteral⟩
  cases expr <;> first | rfl | cases isLiteral

/-- A literal is read back from its tokens, whatever follows them. -/
theorem Literal.gives_write (literal : Literal) {front : List Located}
    (written : front.map (·.token) = literal.expr.write .operand) (rest : List Located) (n : Nat) :
    Gives (primary (front ++ rest) n) literal.expr rest n := by
  rcases literal with ⟨expr, isLiteral⟩
  cases expr with
  | integer value => exact gives_integer written
  | float value => exact gives_float written
  | string value =>
      rcases exists_singleton_of_map_token written with ⟨position, rfl⟩
      rw [List.singleton_append, primary]
      exact ⟨_, rfl⟩
  | boolean value =>
      rcases exists_singleton_of_map_token written with ⟨position, rfl⟩
      cases value with
      | true =>
          rw [if_pos rfl, List.singleton_append, primary]
          exact ⟨_, rfl⟩
      | false =>
          rw [if_neg (by decide), List.singleton_append, primary]
          exact ⟨_, rfl⟩
  | null =>
      rcases exists_singleton_of_map_token written with ⟨position, rfl⟩
      rw [List.singleton_append, primary]
      exact ⟨_, rfl⟩
  | _ => cases isLiteral

/-- The literals for some of the placeholders, by their numbers. -/
abbrev Supply := Nat → Option Literal

namespace Supply

/-- The supply that leaves all placeholders as they are. -/
def nothing : Supply := fun _ => none

variable (supply : Supply)

/-- How many of the placeholders before a number stay. -/
def kept : Nat → Nat
  | 0 => 0
  | n + 1 => if (supply n).isSome then kept n else kept n + 1

/-- The tokens that are written for a placeholder. -/
def tokensAt (index : Nat) : List Token :=
  (supply index).elim [.placeholder] fun literal => literal.expr.write .operand

/-- The operand that takes the place of a placeholder. -/
def operandAt (index : Nat) : Expr :=
  (supply index).elim (.placeholder (supply.kept index)) Literal.expr

/-- The tokens behind `n` placeholders, where the literals are written for the placeholder
tokens. -/
def write : Nat → List Token → List Token
  | _, [] => []
  | n, token :: rest =>
      if token.isPlaceholder then supply.tokensAt n ++ write (n + 1) rest
      else token :: write n rest

end Supply

mutual
/-- The expression with the literals in the places of the placeholders. -/
def Expr.supplied (supply : Supply) : Expr → Expr
  | .placeholder index => supply.operandAt index
  | .binary op left right => .binary op (left.supplied supply) (right.supplied supply)
  | .not operand => .not (operand.supplied supply)
  | .isNull operand => .isNull (operand.supplied supply)
  | .isNotNull operand => .isNotNull (operand.supplied supply)
  | .inList operand items negated =>
      .inList (operand.supplied supply) (suppliedEach supply items) negated
  | .call name args => .call name (suppliedEach supply args)
  | other => other

/-- Expressions with the literals in the places of their placeholders. -/
def suppliedEach (supply : Supply) : List Expr → List Expr
  | [] => []
  | expr :: rest => expr.supplied supply :: suppliedEach supply rest
end

/-- An entry of a column list with the literals in the places of its placeholders. -/
def Column.supplied (supply : Supply) : Column → Column
  | .star => .star
  | .field name label => .field name label
  | .call name args label => .call name (suppliedEach supply args) label
  | .expression expr label => .expression (expr.supplied supply) label

/-- A SELECT with the literals in the places of its placeholders. -/
def Select.supplied (supply : Supply) : Select → Select
  | ⟨columns, .table name, offset, filter, limit⟩ =>
      ⟨columns.map (Column.supplied supply), .table name, offset,
        filter.map (Expr.supplied supply), limit⟩
  | ⟨columns, .nested inner, offset, filter, limit⟩ =>
      ⟨columns.map (Column.supplied supply), .nested (inner.supplied supply), offset,
        filter.map (Expr.supplied supply), limit⟩

/-- What a SELECT reads from, with the literals in the places of its placeholders. -/
def Source.supplied (supply : Supply) : Source Select → Source Select
  | .table name => .table name
  | .nested inner => .nested (inner.supplied supply)

section Trees

variable (supply : Supply)

theorem suppliedEach_eq_map (items : List Expr) :
    suppliedEach supply items = items.map (Expr.supplied supply) := by
  induction items with
  | nil => rfl
  | cons first rest ih => rw [suppliedEach, ih, List.map_cons]

theorem suppliedEach_append (first second : List Expr) :
    suppliedEach supply (first ++ second) =
      suppliedEach supply first ++ suppliedEach supply second := by
  rw [suppliedEach_eq_map, suppliedEach_eq_map, suppliedEach_eq_map, List.map_append]

theorem supplied_joinLeft (op : BinaryOp) (before : Option Expr) (right : Expr) :
    (joinLeft op before right).supplied supply =
      joinLeft op (before.map (Expr.supplied supply)) (right.supplied supply) := by
  cases before <;> rfl

theorem Column.supplied_ofExpr (expr : Expr) (label : Option String) :
    (Column.ofExpr expr label).supplied supply = .ofExpr (expr.supplied supply) label := by
  cases expr with
  | placeholder index =>
      change Column.expression (supply.operandAt index) label =
        .ofExpr (supply.operandAt index) label
      rw [Supply.operandAt]
      cases supply index with
      | none => rfl
      | some literal => exact (literal.ofExpr_expr label).symm
  | _ => rfl

theorem Select.supplied_eq (select : Select) :
    select.supplied supply =
      ⟨select.columns.map (Column.supplied supply), select.source.supplied supply,
        select.sourceOffset, select.filter.map (Expr.supplied supply), select.limit⟩ := by
  rcases select with ⟨columns, source, offset, filter, limit⟩
  cases source <;> rw [Select.supplied] <;> rfl

end Trees

/-! ## No literals -/

@[simp] theorem Supply.kept_nothing (n : Nat) : nothing.kept n = n := by
  induction n with
  | zero => rfl
  | succ n ih => exact congrArg (· + 1) ih

@[simp] theorem Supply.write_nothing (n : Nat) (tokens : List Token) :
    nothing.write n tokens = tokens := by
  induction tokens generalizing n with
  | nil => rfl
  | cons token rest ih =>
      rw [write, ih, ih]
      cases token <;> rfl

@[simp] theorem Expr.supplied_nothing (expr : Expr) : expr.supplied .nothing = expr := by
  have each {items : List Expr} (own : ∀ item ∈ items, item.supplied .nothing = item) :
      suppliedEach .nothing items = items := by
    rw [suppliedEach_eq_map, List.map_congr_left own, List.map_id']
  induction expr using Expr.induction with
  | placeholder index => exact congrArg Expr.placeholder (Supply.kept_nothing index)
  | binary op left right ihLeft ihRight => rw [Expr.supplied, ihLeft, ihRight]
  | not operand ih | isNull operand ih | isNotNull operand ih => rw [Expr.supplied, ih]
  | inList operand items negated ihOperand ihItems =>
      rw [Expr.supplied, ihOperand, each ihItems]
  | call name args ih => rw [Expr.supplied, each ih]
  | _ => rfl

@[simp] theorem Column.supplied_nothing (column : Column) : column.supplied .nothing = column := by
  have each (items : List Expr) : suppliedEach .nothing items = items := by
    rw [suppliedEach_eq_map, List.map_congr_left fun item _ => item.supplied_nothing, List.map_id']
  cases column with
  | star | field name label => rfl
  | call name args label => rw [Column.supplied, each]
  | expression expr label => rw [Column.supplied, Expr.supplied_nothing]

@[simp] theorem Select.supplied_nothing (select : Select) : select.supplied .nothing = select := by
  have list (columns : List Column) : columns.map (Column.supplied .nothing) = columns := by
    rw [List.map_congr_left fun column _ => column.supplied_nothing, List.map_id']
  have condition (filter : Option Expr) : filter.map (Expr.supplied .nothing) = filter := by
    cases filter with
    | none => rfl
    | some filter => rw [Option.map_some, Expr.supplied_nothing]
  fun_induction Select.supplied .nothing select with
  | case1 columns name offset filter limit => rw [list, condition]
  | case2 columns inner offset filter limit ih => rw [list, condition, ih]

/-! ## Tokens with literals -/

/-- The tokens that a literal or a placeholder starts with. -/
inductive StartsOperand : Token → Prop where
  | integer (value : Int64) : StartsOperand (.integer value)
  | float (value : ExtDouble) : StartsOperand (.float value)
  | string (value : String) : StartsOperand (.string value)
  | true_ : StartsOperand (.keyword .true_)
  | false_ : StartsOperand (.keyword .false_)
  | null : StartsOperand (.keyword .null)
  | minus : StartsOperand (.symbol .minus)
  | placeholder : StartsOperand .placeholder

theorem goesOn_of_startsOperand {place : Level} (token : Token) (starts : StartsOperand token) :
    place.goesOn token = false := by
  cases starts <;> rfl

theorem isWord_of_startsOperand (joint : Joint) (token : Token) (starts : StartsOperand token) :
    joint.isWord token = false := by
  cases joint <;> cases starts <;> rfl

theorem isComma_of_startsOperand (token : Token) (starts : StartsOperand token) :
    isComma token = false := by
  cases starts <;> rfl

theorem isLabel_of_startsOperand (token : Token) (starts : StartsOperand token) :
    isLabel token = false := by
  cases starts <;> rfl

theorem Literal.exists_startsOperand (literal : Literal) :
    ∃ token rest, literal.expr.write .operand = token :: rest ∧ StartsOperand token := by
  rcases literal with ⟨expr, isLiteral⟩
  cases expr with
  | integer value =>
      by_cases negative : value < 0
      · exact ⟨_, _, if_pos negative, .minus⟩
      · exact ⟨_, _, if_neg negative, .integer value⟩
  | float value =>
      by_cases negative : negativeFloat value
      · exact ⟨_, _, if_pos negative, .minus⟩
      · exact ⟨_, _, if_neg negative, .float _⟩
  | string value => exact ⟨_, _, rfl, .string value⟩
  | boolean value =>
      cases value with
      | true => exact ⟨_, _, rfl, .true_⟩
      | false => exact ⟨_, _, rfl, .false_⟩
  | null => exact ⟨_, _, rfl, .null⟩
  | _ => cases isLiteral

theorem Supply.exists_startsOperand (supply : Supply) (index : Nat) :
    ∃ token rest, supply.tokensAt index = token :: rest ∧ StartsOperand token := by
  rw [tokensAt]
  cases supply index with
  | none => exact ⟨.placeholder, [], rfl, .placeholder⟩
  | some literal => exact literal.exists_startsOperand

/-- Tokens behind `n` placeholders, and the same with literals for placeholders, perhaps at other
positions. -/
def Supplied (supply : Supply) (n : Nat) (tokens other : List Located) : Prop :=
  other.map (·.token) = supply.write n (tokens.map (·.token))

namespace Supplied

variable {supply : Supply} {n position place : Nat} {tokens other rest : List Located}
  {token : Token}

theorem nil (supplied : Supplied supply n [] other) : other = [] := List.map_eq_nil_iff.1 supplied

/-- A token that is no placeholder stays. -/
theorem cons (supplied : Supplied supply n (⟨token, position⟩ :: rest) other)
    (plain : token.isPlaceholder = false) :
    ∃ place more, other = ⟨token, place⟩ :: more ∧ Supplied supply n rest more := by
  rw [Supplied, List.map_cons, Supply.write, if_neg (by simp [plain])] at supplied
  exact exists_cons_of_map_token supplied

/-- For a placeholder there are the tokens of its literal, or it stays. -/
theorem placeholder (supplied : Supplied supply n (⟨.placeholder, position⟩ :: rest) other) :
    ∃ front more, other = front ++ more ∧ front.map (·.token) = supply.tokensAt n ∧
      Supplied supply (n + 1) rest more := by
  rcases List.map_eq_append_iff.1 supplied with ⟨front, more, rfl, own, behind⟩
  exact ⟨front, more, rfl, own, behind⟩

/-- In front of what stands for a placeholder there is a token that an operand starts with. -/
theorem exists_startsOperand
    (supplied : Supplied supply n (⟨.placeholder, position⟩ :: rest) other) :
    ∃ token place more, other = ⟨token, place⟩ :: more ∧ StartsOperand token := by
  rcases supplied.placeholder with ⟨front, more, rfl, own, -⟩
  rcases supply.exists_startsOperand n with ⟨token, others, written, starts⟩
  rcases exists_cons_of_map_token (own.trans written) with ⟨place, last, rfl, -⟩
  exact ⟨token, place, last ++ more, rfl, starts⟩

/-- A token that no operand starts with has been there before. -/
theorem uncons (supplied : Supplied supply n tokens (⟨token, place⟩ :: rest))
    (other : ¬ StartsOperand token) :
    ∃ position more, tokens = ⟨token, position⟩ :: more := by
  rcases tokens with _ | ⟨⟨first, position⟩, more⟩
  · cases supplied
  · cases own : first.isPlaceholder with
    | true =>
        cases first <;> cases own
        rcases supplied.exists_startsOperand with ⟨token, place, last, same, starts⟩
        cases same
        exact absurd starts other
    | false =>
        rcases supplied.cons own with ⟨place, last, same, -⟩
        cases same
        exact ⟨position, more, rfl⟩

/-- The tokens start alike, as far as tokens count that no operand starts with. -/
theorem ahead_eq (supplied : Supplied supply n tokens other) {kind : Token → Bool}
    (none : ∀ token, StartsOperand token → kind token = false) :
    ahead kind other = ahead kind tokens := by
  rcases tokens with _ | ⟨⟨first, position⟩, more⟩
  · cases supplied.nil
    rfl
  · cases own : first.isPlaceholder with
    | true =>
        cases first <;> cases own
        rcases supplied.exists_startsOperand with ⟨token, place, last, rfl, starts⟩
        exact (none token starts).trans (none .placeholder .placeholder).symm
    | false =>
        rcases supplied.cons own with ⟨place, last, rfl, -⟩
        rfl

/-- A token that is expected is there. -/
theorem expect {wanted : Token} {behind : Behind tokens}
    (supplied : Supplied supply n tokens other) (found : Sql.expect wanted tokens = .ok behind)
    (plain : wanted.isPlaceholder = false) :
    ∃ place more, other = ⟨wanted, place⟩ :: more ∧ Supplied supply n behind.1 more := by
  rcases expect_eq_ok found with ⟨position, front⟩
  exact (front ▸ supplied).cons plain

/-- A name that is expected is there. -/
theorem expectIdentifier {name : String} {behind : Behind tokens}
    (supplied : Supplied supply n tokens other)
    (found : Sql.expectIdentifier tokens = .ok (name, behind)) :
    ∃ place more, other = ⟨.identifier name, place⟩ :: more ∧ Supplied supply n behind.1 more := by
  rcases expectIdentifier_eq_ok found with ⟨position, front⟩
  exact (front ▸ supplied).cons rfl

end Supplied

end RecordQuery.Sql
