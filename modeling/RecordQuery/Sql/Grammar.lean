import RecordQuery.Sql.Statement
import RecordQuery.Sql.Token.Scan

/-!
# From tokens to statements

A recursive descent over the list of tokens. From the loosest to the tightest, the operators are
`OR`, `AND`, `NOT`, and the comparisons, which do not chain. Every function returns the tokens it
leaves with the proof that it took at least one, and the number of placeholders up to there.
-/

namespace RecordQuery.Sql

/-- What was read at the front of `input`: its value, the tokens behind it, and the number of
placeholders in the statement up to them. -/
structure Parsed (α : Type) (input : List Located) where
  value : α
  rest : List Located
  placeholders : Nat
  shorter : rest.length < input.length

namespace Parsed

variable {α β : Type} {input longer : List Located}

def map (f : α → β) (parsed : Parsed α input) : Parsed β input :=
  { parsed with value := f parsed.value }

/-- The same reading seen from a longer list of tokens. -/
def widen (parsed : Parsed α input) (longerInput : input.length < longer.length) :
    Parsed α longer :=
  { parsed with shorter := Nat.lt_trans parsed.shorter longerInput }

end Parsed

/-- The fault of the token at the front. -/
def faultAt (fault : SyntaxFault) (tokens : List Located) : QueryError :=
  match tokens with
  | [] => .locatedAt fault Token.endOfInput.describe 0
  | ⟨token, position⟩ :: _ => .locatedAt fault token.describe position

/-- A list of tokens shorter than another. -/
abbrev Behind (tokens : List Located) := { rest : List Located // rest.length < tokens.length }

/-- Takes one token that has to be there. -/
def expect (wanted : Token) (tokens : List Located) : QueryResult (Behind tokens) :=
  match tokens with
  | ⟨token, position⟩ :: rest =>
      if token = wanted then .ok ⟨rest, Nat.lt_succ_self _⟩
      else .error (faultAt (.expectedToken wanted) (⟨token, position⟩ :: rest))
  | [] => .error (faultAt (.expectedToken wanted) [])

/-- Takes an identifier that has to be there. -/
def expectIdentifier (tokens : List Located) : QueryResult (String × Behind tokens) :=
  match tokens with
  | ⟨.identifier name, _⟩ :: rest => .ok (name, ⟨rest, Nat.lt_succ_self _⟩)
  | _ => .error (faultAt .expectedIdentifier tokens)

/-- Joins an operand to the operands before it, from the left. -/
def joinLeft (op : BinaryOp) : Option Expr → Expr → Expr
  | none, right => right
  | some left, right => .binary op left right

/-- The comparison that a token stands for. -/
def compareOp? : Token → Option CompareOp
  | .symbol .equal => some .eq
  | .symbol .notEqual => some .ne
  | .symbol .less => some .lt
  | .symbol .lessEqual => some .le
  | .symbol .greater => some .gt
  | .symbol .greaterEqual => some .ge
  | _ => none

/-- The target behind an `AS`, where there is one, as an argument of its own. -/
def castAt {tokens : List Located} (operand : Parsed Expr tokens) :
    QueryResult (Parsed (List Expr) tokens) :=
  match next : operand.rest with
  | ⟨.keyword .as_, _⟩ :: rest => do
      let (target, ⟨after, less⟩) ← expectIdentifier rest
      return ⟨[operand.value, .column target], after, operand.placeholders, by
        have := operand.shorter
        simp only [next, List.length_cons] at this
        omega⟩
  | _ => return operand.map ([·])

mutual
/-- Operands joined by `OR`, to be joined to those before them. -/
def disjunction (before : Option Expr) (tokens : List Located) (placeholders : Nat) :
    QueryResult (Parsed Expr tokens) := do
  let operand ← conjunction none tokens placeholders
  let joined := operand.map (joinLeft .or before)
  match next : operand.rest with
  | ⟨.keyword .or_, _⟩ :: rest =>
      have less : rest.length < tokens.length := by
        have := operand.shorter
        rw [next] at this
        exact Nat.lt_of_succ_lt this
      let whole ← disjunction (some joined.value) rest operand.placeholders
      return whole.widen less
  | _ => return joined
termination_by 7 * tokens.length + 4

/-- Operands joined by `AND`, to be joined to those before them. -/
def conjunction (before : Option Expr) (tokens : List Located) (placeholders : Nat) :
    QueryResult (Parsed Expr tokens) := do
  let operand ← negation tokens placeholders
  let joined := operand.map (joinLeft .and before)
  match next : operand.rest with
  | ⟨.keyword .and_, _⟩ :: rest =>
      have less : rest.length < tokens.length := by
        have := operand.shorter
        rw [next] at this
        exact Nat.lt_of_succ_lt this
      let whole ← conjunction (some joined.value) rest operand.placeholders
      return whole.widen less
  | _ => return joined
termination_by 7 * tokens.length + 3

/-- A comparison behind any number of `NOT`. -/
def negation (tokens : List Located) (placeholders : Nat) : QueryResult (Parsed Expr tokens) :=
  match tokens with
  | ⟨.keyword .not_, _⟩ :: rest => do
      let operand ← negation rest placeholders
      return (operand.map .not).widen (Nat.lt_succ_self _)
  | other => comparison other placeholders
termination_by 7 * tokens.length + 2

/-- One operand, tested for null, for membership in a list, or compared with a second one. -/
def comparison (tokens : List Located) (placeholders : Nat) :
    QueryResult (Parsed Expr tokens) := do
  let left ← primary tokens placeholders
  match next : left.rest with
  | ⟨.keyword .is_, _⟩ :: ⟨.keyword .not_, _⟩ :: rest =>
      let ⟨after, less⟩ ← expect (.keyword .null) rest
      return ⟨.isNotNull left.value, after, left.placeholders, by
        have := left.shorter
        simp only [next, List.length_cons] at this
        omega⟩
  | ⟨.keyword .is_, _⟩ :: rest =>
      let ⟨after, less⟩ ← expect (.keyword .null) rest
      return ⟨.isNull left.value, after, left.placeholders, by
        have := left.shorter
        simp only [next, List.length_cons] at this
        omega⟩
  | ⟨.keyword .not_, _⟩ :: ⟨.keyword .in_, _⟩ :: rest =>
      have less : rest.length < tokens.length := by
        have := left.shorter
        simp only [next, List.length_cons] at this
        omega
      let items ← listInParens rest left.placeholders
      return (items.map fun items => .inList left.value items true).widen less
  | ⟨.keyword .in_, _⟩ :: rest =>
      have less : rest.length < tokens.length := by
        have := left.shorter
        simp only [next, List.length_cons] at this
        omega
      let items ← listInParens rest left.placeholders
      return (items.map fun items => .inList left.value items false).widen less
  | ⟨token, _⟩ :: rest =>
      match compareOp? token with
      | some op =>
          have less : rest.length < tokens.length := by
            have := left.shorter
            simp only [next, List.length_cons] at this
            omega
          let right ← primary rest left.placeholders
          return (right.map (.binary (.compare op) left.value)).widen less
      | none => return left
  | [] => return left
termination_by 7 * tokens.length + 1

/-- Expressions between parentheses, at least one. -/
def listInParens (tokens : List Located) (placeholders : Nat) :
    QueryResult (Parsed (List Expr) tokens) := do
  let ⟨inner, opened⟩ ← expect (.symbol .leftParen) tokens
  let items ← expressions inner placeholders
  let ⟨rest, closed⟩ ← expect (.symbol .rightParen) items.rest
  return ⟨items.value, rest, items.placeholders,
    Nat.lt_trans closed (Nat.lt_trans items.shorter opened)⟩
termination_by 7 * tokens.length + 0

/-- Expressions separated by commas, at least one. -/
def expressions (tokens : List Located) (placeholders : Nat) :
    QueryResult (Parsed (List Expr) tokens) := do
  let first ← disjunction none tokens placeholders
  match next : first.rest with
  | ⟨.symbol .comma, _⟩ :: rest =>
      have less : rest.length < tokens.length := by
        have := first.shorter
        rw [next] at this
        exact Nat.lt_of_succ_lt this
      let others ← expressions rest first.placeholders
      return (others.map (first.value :: ·)).widen less
  | _ => return first.map ([·])
termination_by 7 * tokens.length + 5

/-- The arguments of a call up to its closing parenthesis, at least one. -/
def arguments (tokens : List Located) (placeholders : Nat) :
    QueryResult (Parsed (List Expr) tokens) := do
  let first ← argument tokens placeholders
  match next : first.rest with
  | ⟨.symbol .comma, _⟩ :: rest =>
      have less : rest.length < tokens.length := by
        have := first.shorter
        rw [next] at this
        exact Nat.lt_of_succ_lt this
      let others ← arguments rest first.placeholders
      return (others.map (first.value ++ ·)).widen less
  | _ => return first
termination_by 7 * tokens.length + 6

/-- One argument of a call. A star counts as a column, and so does the name behind an `AS`. -/
def argument (tokens : List Located) (placeholders : Nat) :
    QueryResult (Parsed (List Expr) tokens) :=
  match tokens with
  | ⟨.symbol .star, _⟩ :: rest => castAt ⟨.column "*", rest, placeholders, Nat.lt_succ_self _⟩
  | other => do
      let operand ← disjunction none other placeholders
      castAt operand
termination_by 7 * tokens.length + 5

/-- A literal, a placeholder, a column, a call, or an expression between parentheses. -/
def primary (tokens : List Located) (placeholders : Nat) : QueryResult (Parsed Expr tokens) :=
  match tokens with
  | ⟨.integer value, _⟩ :: rest => .ok ⟨.integer value, rest, placeholders, Nat.lt_succ_self _⟩
  | ⟨.float value, _⟩ :: rest => .ok ⟨.float value, rest, placeholders, Nat.lt_succ_self _⟩
  | ⟨.symbol .minus, _⟩ :: rest =>
      match rest with
      | ⟨.integer value, _⟩ :: rest =>
          .ok ⟨.integer (-value), rest, placeholders, by simp only [List.length_cons]; omega⟩
      | ⟨.float value, _⟩ :: rest =>
          .ok ⟨.float value.negate, rest, placeholders, by simp only [List.length_cons]; omega⟩
      | _ => .error (faultAt .expectedNumber rest)
  | ⟨.string value, _⟩ :: rest => .ok ⟨.string value, rest, placeholders, Nat.lt_succ_self _⟩
  | ⟨.keyword .true_, _⟩ :: rest => .ok ⟨.boolean true, rest, placeholders, Nat.lt_succ_self _⟩
  | ⟨.keyword .false_, _⟩ :: rest => .ok ⟨.boolean false, rest, placeholders, Nat.lt_succ_self _⟩
  | ⟨.keyword .null, _⟩ :: rest => .ok ⟨.null, rest, placeholders, Nat.lt_succ_self _⟩
  | ⟨.placeholder, _⟩ :: rest =>
      .ok ⟨.placeholder placeholders, rest, placeholders + 1, Nat.lt_succ_self _⟩
  | ⟨.symbol .leftParen, _⟩ :: inner => do
      let whole ← disjunction none inner placeholders
      let ⟨rest, closed⟩ ← expect (.symbol .rightParen) whole.rest
      return ⟨whole.value, rest, whole.placeholders,
        Nat.lt_trans closed (Nat.lt_succ_of_lt whole.shorter)⟩
  | ⟨.identifier name, _⟩ :: ⟨.symbol .leftParen, _⟩ :: ⟨.symbol .rightParen, _⟩ :: rest =>
      .ok ⟨.call name [], rest, placeholders, by simp only [List.length_cons]; omega⟩
  | ⟨.identifier name, _⟩ :: ⟨.symbol .leftParen, _⟩ :: inner => do
      let args ← arguments inner placeholders
      let ⟨rest, closed⟩ ← expect (.symbol .rightParen) args.rest
      return ⟨.call name args.value, rest, args.placeholders, by
        have := args.shorter
        simp only [List.length_cons]
        omega⟩
  | ⟨.identifier name, _⟩ :: ⟨.symbol .dot, _⟩ :: rest => do
      let (column, ⟨after, less⟩) ← expectIdentifier rest
      return ⟨.qualified name column, after, placeholders, by simp only [List.length_cons]; omega⟩
  | ⟨.identifier name, _⟩ :: rest => .ok ⟨.column name, rest, placeholders, Nat.lt_succ_self _⟩
  | _ => .error (faultAt .notAnExpression tokens)
termination_by 7 * tokens.length + 0
end

/-- An expression. -/
def expression (tokens : List Located) (placeholders : Nat) : QueryResult (Parsed Expr tokens) :=
  disjunction none tokens placeholders

/-! ## SELECT -/

/-- The column that an operand of a column list stands for. -/
def Column.ofExpr (expr : Expr) (label : Option String) : Column :=
  match expr with
  | .column name => .field name label
  | .qualified table column => .field (table ++ "." ++ column) label
  | .call name args => .call name args label
  | other => .expression other label

/-- One entry of a column list. -/
def column (tokens : List Located) (placeholders : Nat) : QueryResult (Parsed Column tokens) :=
  match tokens with
  | ⟨.symbol .star, _⟩ :: rest => .ok ⟨.star, rest, placeholders, Nat.lt_succ_self _⟩
  | other => do
      let operand ← primary other placeholders
      match next : operand.rest with
      | ⟨.keyword .as_, _⟩ :: rest =>
          let (label, ⟨after, less⟩) ← expectIdentifier rest
          return ⟨.ofExpr operand.value (some label), after, operand.placeholders, by
            have := operand.shorter
            simp only [next, List.length_cons] at this
            omega⟩
      | ⟨.identifier label, _⟩ :: rest =>
          return ⟨.ofExpr operand.value (some label), rest, operand.placeholders, by
            have := operand.shorter
            rw [next] at this
            exact Nat.lt_of_succ_lt this⟩
      | _ => return operand.map (Column.ofExpr · none)

/-- Columns separated by commas, at least one. -/
def columns (tokens : List Located) (placeholders : Nat) :
    QueryResult (Parsed (List Column) tokens) := do
  let first ← column tokens placeholders
  match next : first.rest with
  | ⟨.symbol .comma, _⟩ :: rest =>
      have less : rest.length < tokens.length := by
        have := first.shorter
        rw [next] at this
        exact Nat.lt_of_succ_lt this
      let others ← columns rest first.placeholders
      return (others.map (first.value :: ·)).widen less
  | _ => return first.map ([·])
termination_by tokens.length

/-- The condition behind a `WHERE`, where there is one. -/
def filterAt {α : Type} {tokens : List Located} (before : Parsed α tokens) :
    QueryResult (Parsed (α × Option Expr) tokens) :=
  match next : before.rest with
  | ⟨.keyword .where_, _⟩ :: rest => do
      let filter ← expression rest before.placeholders
      return (filter.map fun filter => (before.value, some filter)).widen (by
        have := before.shorter
        rw [next] at this
        exact Nat.lt_of_succ_lt this)
  | _ => return before.map (·, none)

/-- The number behind a `LIMIT`, where there is one. -/
def limitAt {α : Type} {tokens : List Located} (before : Parsed α tokens) :
    QueryResult (Parsed (α × Option Nat) tokens) :=
  match next : before.rest with
  | ⟨.keyword .limit, _⟩ :: ⟨.integer count, _⟩ :: rest =>
      return ⟨(before.value, some count.toInt.toNat), rest, before.placeholders, by
        have := before.shorter
        simp only [next, List.length_cons] at this
        omega⟩
  | ⟨.keyword .limit, _⟩ :: rest => .error (faultAt .expectedLimit rest)
  | _ => return before.map (·, none)

/-- Drops the name that may follow a nested SELECT. -/
def skipLabel {α : Type} {tokens : List Located} (before : Parsed α tokens) :
    QueryResult (Parsed α tokens) :=
  match next : before.rest with
  | ⟨.keyword .as_, _⟩ :: rest => do
      let (_, ⟨after, less⟩) ← expectIdentifier rest
      return { before with
        rest := after
        shorter := by
          have := before.shorter
          simp only [next, List.length_cons] at this
          omega }
  | ⟨.identifier _, _⟩ :: rest =>
      return { before with
        rest := rest
        shorter := by
          have := before.shorter
          rw [next] at this
          exact Nat.lt_of_succ_lt this }
  | _ => return before

mutual
/-- A SELECT without anything behind it. -/
def select (tokens : List Located) (placeholders : Nat) : QueryResult (Parsed Select tokens) := do
  let ⟨start, opened⟩ ← expect (.keyword .select) tokens
  let columns ← columns start placeholders
  let ⟨from_, within⟩ ← expect (.keyword .from_) columns.rest
  have inside : from_.length < tokens.length :=
    Nat.lt_trans within (Nat.lt_trans columns.shorter opened)
  let offset := match from_ with
    | ⟨_, position⟩ :: _ => position
    | [] => 0
  let source ← source from_ columns.placeholders
  let filtered ← filterAt source
  let limited ← limitAt filtered
  return (limited.map fun ((source, filter), limit) =>
    { columns := columns.value, source, sourceOffset := offset, filter, limit }).widen inside
termination_by 7 * tokens.length + 1

/-- A table name, or a SELECT between parentheses. -/
def source (tokens : List Located) (placeholders : Nat) :
    QueryResult (Parsed (Source Select) tokens) :=
  match tokens with
  | ⟨.symbol .leftParen, _⟩ :: inner => do
      let nested ← select inner placeholders
      let ⟨rest, closed⟩ ← expect (.symbol .rightParen) nested.rest
      skipLabel ⟨.nested nested.value, rest, nested.placeholders,
        Nat.lt_trans closed (Nat.lt_succ_of_lt nested.shorter)⟩
  | other => do
      let (name, ⟨rest, less⟩) ← expectIdentifier other
      return ⟨.table name, rest, placeholders, less⟩
termination_by 7 * tokens.length + 0
end

/-! ## Whole texts -/

/-- Refuses tokens that are left before the end of the input. -/
def expectEnd (tokens : List Located) : QueryResult Unit :=
  match tokens with
  | ⟨.endOfInput, _⟩ :: _ => .ok ()
  | [] => .ok ()
  | _ => .error (faultAt .trailingInput tokens)

/-- The condition that a text holds whose first character has the position `offset`. -/
def parseCriteria (text : String) (offset : Nat) : QueryResult Expr := do
  let tokens ← tokenize text offset
  let whole ← expression tokens 0
  expectEnd whole.rest
  return whole.value

/-- The statement of a SELECT, which may end in a semicolon. -/
def parseSelection (text : String) : QueryResult Select := do
  let tokens ← tokenize text 0
  match tokens with
  | ⟨.keyword .select, _⟩ :: _ =>
      let whole ← select tokens 0
      let rest := match whole.rest with
        | ⟨.symbol .semicolon, _⟩ :: rest => rest
        | rest => rest
      expectEnd rest
      return whole.value
  | _ => .error (faultAt .notAStatement tokens)

/-- The text of a type definition without blanks and semicolons around it. -/
def trimDefinition (text : List Char) : List Char :=
  Text.trimChars ((Text.trimChars text).reverse.dropWhile (· == ';')).reverse

/-- What follows the word REGISTER. The definition is the rest of the text. -/
def parseRegistration (start : Cursor) : QueryResult Registration := do
  let (first, afterFirst) ← start.next
  let everywhere := first == .keyword .global_
  let (type, afterType) ← if everywhere then afterFirst.next else pure (first, afterFirst)
  if type != .keyword .type_ then
    throw (.locatedAt (.expectedToken (.keyword .type_)) type.describe afterType.position)
  let (nameToken, afterName) ← afterType.next
  let name ←
    match nameToken with
    | .identifier name => pure name
    | other => throw (.locatedAt .expectedTypeName other.describe afterType.skip.position)
  let (as_, afterAs) ← afterName.next
  if as_ != .keyword .as_ then
    throw (.locatedAt (.expectedToken (.keyword .as_)) as_.describe afterName.skip.position)
  let definition := trimDefinition afterAs.rest
  if definition.isEmpty then
    throw (.locatedAt .missingDefinition "" afterAs.position)
  return { name, everywhere, definition := String.ofList definition }

/-- The statement that a text holds. -/
def parseStatement (text : String) : QueryResult Statement := do
  let (first, rest) ← (Cursor.start text 0).next
  if first == .keyword .register then
    return .register (← parseRegistration rest)
  else
    return .select (← parseSelection text)

/-- The SELECT that a text holds. -/
def parseSelect (text : String) : QueryResult Select := do
  match ← parseStatement text with
  | .select select => return select
  | .register _ => throw (.parse .notSelect)

end RecordQuery.Sql
