import RecordQuery.Proofs.Sql.Numbering

/-!
# Writing statements

A SELECT is written as a list of tokens, and the tokens as text with a blank behind each of them.
Names stand between grave accents. An operand stands between parentheses only where its operator
binds looser than its place asks for: `OR` before `AND`, `NOT`, the comparisons, and the operands
that no operator joins. `OR` and `AND` group to the left.
-/

namespace RecordQuery.Sql

/-! ## Tokens -/

/-- Decimals without an exponent and with a point: `100.0`, `0.00001`. -/
def decimal : Layout := ⟨-400, 400, true, false, true⟩

/-- A character of a string, behind a backslash where the string would end or an escape begin. -/
def escape (c : Char) : List Char :=
  if c == '\'' || c == '\\' then ['\\', c] else [c]

/-- The characters of a token. -/
def Token.spelling : Token → List Char
  | .keyword word => word.text.toList
  | .identifier name => '\x60' :: (name.toList ++ ['\x60'])
  | .integer value => Nat.toDigits 10 value.toInt.toNat
  | .float value => (decimal.writeExt value).toList
  | .string value => '\'' :: (value.toList.flatMap escape ++ ['\''])
  | .placeholder => ['?']
  | .symbol sign => sign.text.toList
  | .endOfInput => []

/-- The text of tokens. -/
def spell (tokens : List Token) : List Char :=
  tokens.flatMap fun token => token.spelling ++ [' ']

/-- Tokens at the positions where they stand in their text, when it starts at `start`. -/
def placed (start : Nat) : List Token → List Located
  | [] => []
  | token :: rest => ⟨token, start⟩ :: placed (start + (spell [token]).length) rest

theorem spell_append (first second : List Token) :
    spell (first ++ second) = spell first ++ spell second :=
  List.flatMap_append

theorem spell_cons (token : Token) (rest : List Token) :
    spell (token :: rest) = token.spelling ++ ' ' :: spell rest := by
  rw [spell, List.flatMap_cons, List.append_assoc]
  rfl

theorem placed_append (start : Nat) (first second : List Token) :
    placed start (first ++ second) =
      placed start first ++ placed (start + (spell first).length) second := by
  induction first generalizing start with
  | nil => rfl
  | cons token rest ih =>
      have whole : spell (token :: rest) = spell [token] ++ spell rest := spell_append [token] rest
      rw [List.cons_append, placed, placed, ih, List.cons_append, whole, List.length_append,
        Nat.add_assoc]

theorem map_token_placed (start : Nat) (tokens : List Token) :
    (placed start tokens).map (·.token) = tokens := by
  induction tokens generalizing start with
  | nil => rfl
  | cons token rest ih => rw [placed, List.map_cons, ih]

/-- The first of some tokens stands at some position. -/
theorem exists_cons_of_map_token {tokens : List Located} {token : Token} {rest : List Token}
    (same : tokens.map (·.token) = token :: rest) :
    ∃ position more, tokens = ⟨token, position⟩ :: more ∧ more.map (·.token) = rest := by
  rcases List.map_eq_cons_iff.1 same with ⟨⟨first, position⟩, more, rfl, rfl, behind⟩
  exact ⟨position, more, rfl, behind⟩

theorem exists_singleton_of_map_token {tokens : List Located} {token : Token}
    (same : tokens.map (·.token) = [token]) : ∃ position, tokens = [⟨token, position⟩] := by
  rcases exists_cons_of_map_token same with ⟨position, more, rfl, none⟩
  exact ⟨position, congrArg _ (List.map_eq_nil_iff.1 none)⟩

/-! ## Expressions -/

/-- The places of operands, from those where any expression may stand to those where no operator
may. -/
inductive Level where
  | disjunction
  | conjunction
  | negation
  | comparison
  | operand
  deriving DecidableEq

def Level.rank : Level → Nat
  | .disjunction => 0
  | .conjunction => 1
  | .negation => 2
  | .comparison => 3
  | .operand => 4

/-- Tokens of an expression whose own level is given, between parentheses where the place asks for
a tighter one. -/
def enclosed (own place : Level) (tokens : List Token) : List Token :=
  if own.rank < place.rank then .symbol .leftParen :: (tokens ++ [.symbol .rightParen]) else tokens

def CompareOp.symbol : CompareOp → Symbol
  | .eq => .equal
  | .ne => .notEqual
  | .lt => .less
  | .le => .lessEqual
  | .gt => .greater
  | .ge => .greaterEqual

/-- Whether a number is written behind a minus. -/
def negativeFloat : ExtDouble → Bool
  | .finite value => value.negative
  | .infinite negative => negative

/-- A number without its sign. -/
def unsignedFloat (value : ExtDouble) : ExtDouble :=
  if negativeFloat value then value.negate else value

/-- What stands between the arguments of a call: the target of a cast stands behind `AS`. -/
def separator (name : String) : List Expr → Token
  | [_, .column _] => if name.toLower == "cast" then .keyword .as_ else .symbol .comma
  | _ => .symbol .comma

mutual
/-- The tokens of an expression at a place. -/
def Expr.write (place : Level) : Expr → List Token
  | .column name => [.identifier name]
  | .qualified table column => [.identifier table, .symbol .dot, .identifier column]
  | .integer value =>
      if value < 0 then [.symbol .minus, .integer (-value)] else [.integer value]
  | .float value =>
      if negativeFloat value then [.symbol .minus, .float (unsignedFloat value)]
      else [.float (unsignedFloat value)]
  | .string value => [.string value]
  | .boolean value => [.keyword (if value then .true_ else .false_)]
  | .null => [.keyword .null]
  | .placeholder _ => [.placeholder]
  | .binary .or left right =>
      enclosed .disjunction place
        (left.write .disjunction ++ .keyword .or_ :: right.write .conjunction)
  | .binary .and left right =>
      enclosed .conjunction place
        (left.write .conjunction ++ .keyword .and_ :: right.write .negation)
  | .binary (.compare op) left right =>
      enclosed .comparison place
        (left.write .operand ++ .symbol op.symbol :: right.write .operand)
  | .not operand => enclosed .negation place (.keyword .not_ :: operand.write .negation)
  | .isNull operand =>
      enclosed .comparison place (operand.write .operand ++ [.keyword .is_, .keyword .null])
  | .isNotNull operand =>
      enclosed .comparison place
        (operand.write .operand ++ [.keyword .is_, .keyword .not_, .keyword .null])
  | .inList operand items negated =>
      enclosed .comparison place
        (operand.write .operand ++ (if negated then [.keyword .not_] else []) ++
          .keyword .in_ :: .symbol .leftParen ::
            ([.symbol .comma].intercalate (writeEach items) ++ [.symbol .rightParen]))
  | .call name args =>
      .identifier name :: .symbol .leftParen ::
        ([separator name args].intercalate (writeEach args) ++ [.symbol .rightParen])

/-- The tokens of each of several expressions. -/
def writeEach : List Expr → List (List Token)
  | [] => []
  | expr :: rest => expr.write .disjunction :: writeEach rest
end

/-! ## SELECT -/

/-- The name of a column behind `AS`. -/
def writeLabel : Option String → List Token
  | none => []
  | some label => [.keyword .as_, .identifier label]

/-- The tokens of an entry of a column list. -/
def Column.write : Column → List Token
  | .star => [.symbol .star]
  | .field name label => .identifier name :: writeLabel label
  | .call name args label => (Expr.call name args).write .operand ++ writeLabel label
  | .expression expr label => expr.write .operand ++ writeLabel label

/-- What stands in front of the source of a SELECT. -/
def writeColumns (columns : List Column) : List Token :=
  .keyword .select :: ([.symbol .comma].intercalate (columns.map Column.write) ++ [.keyword .from_])

/-- A condition behind `WHERE`. -/
def writeFilter : Option Expr → List Token
  | none => []
  | some filter => .keyword .where_ :: filter.write .disjunction

/-- A limit behind `LIMIT`. -/
def writeLimit : Option Nat → List Token
  | none => []
  | some count => [.keyword .limit, .integer (Int64.ofNat count)]

/-- What stands behind the source of a SELECT. -/
def writeClauses (filter : Option Expr) (limit : Option Nat) : List Token :=
  writeFilter filter ++ writeLimit limit

/-- The tokens of a SELECT. -/
def Select.write : Select → List Token
  | ⟨columns, .table name, _, filter, limit⟩ =>
      writeColumns columns ++ .identifier name :: writeClauses filter limit
  | ⟨columns, .nested inner, _, filter, limit⟩ =>
      writeColumns columns ++
        .symbol .leftParen :: (inner.write ++ .symbol .rightParen :: writeClauses filter limit)

/-- The text of a SELECT. -/
def Select.render (select : Select) : String := String.ofList (spell select.write)

/-- A SELECT whose text starts at `start`: each source has the offset of its first character. -/
def Select.placedAt (start : Nat) : Select → Select
  | ⟨columns, .table name, _, filter, limit⟩ =>
      ⟨columns, .table name, start + (spell (writeColumns columns)).length, filter, limit⟩
  | ⟨columns, .nested inner, _, filter, limit⟩ =>
      let offset := start + (spell (writeColumns columns)).length
      ⟨columns, .nested (inner.placedAt (offset + (spell [.symbol .leftParen]).length)), offset,
        filter, limit⟩

/-- A SELECT without the positions of its sources. -/
def Select.unplaced : Select → Select
  | ⟨columns, .table name, _, filter, limit⟩ => ⟨columns, .table name, 0, filter, limit⟩
  | ⟨columns, .nested inner, _, filter, limit⟩ =>
      ⟨columns, .nested inner.unplaced, 0, filter, limit⟩

/-- What a SELECT reads from, without the positions in it. -/
def Source.unplaced : Source Select → Source Select
  | .table name => .table name
  | .nested inner => .nested inner.unplaced

theorem Select.unplaced_eq (select : Select) :
    select.unplaced =
      ⟨select.columns, select.source.unplaced, 0, select.filter, select.limit⟩ := by
  rcases select with ⟨columns, source, offset, filter, limit⟩
  cases source <;> rw [Select.unplaced] <;> rfl

@[simp] theorem Select.unplaced_placedAt (select : Select) (start : Nat) :
    (select.placedAt start).unplaced = select.unplaced := by
  fun_induction Select.placedAt start select with
  | case1 start entries name offset filter limit => rw [Select.unplaced, Select.unplaced]
  | case2 start entries inner offset filter limit position ih =>
      rw [Select.unplaced, Select.unplaced, ih]

/-! ## What can be written -/

/-- A name that can stand between grave accents. -/
def Plain (name : String) : Prop := '\x60' ∉ name.toList

instance (name : String) : Decidable (Plain name) := inferInstanceAs (Decidable (¬ _))

/-- A finite number that is read back from its decimal. -/
def ReadsBack (value : ExtDouble) : Prop :=
  scanToken (Token.float (unsignedFloat value)).spelling = .ok (.float (unsignedFloat value), [])

instance (value : ExtDouble) : Decidable (ReadsBack value) :=
  decidable_of_iff _ Outcome.toOption_eq_some

mutual
/-- An expression that can be written: names are plain, whole numbers have a size that a token can
have, floats are read back, and lists are not empty. -/
def Expr.Writable : Expr → Prop
  | .column name => Plain name
  | .qualified table column => Plain table ∧ Plain column
  | .integer value => value.toInt.natAbs < 0x8000000000000000
  | .float value => ReadsBack value
  | .binary _ left right => left.Writable ∧ right.Writable
  | .not operand | .isNull operand | .isNotNull operand => operand.Writable
  | .inList operand items _ => operand.Writable ∧ items ≠ [] ∧ EachWritable items
  | .call name args => Plain name ∧ EachWritable args
  | .string _ | .boolean _ | .null | .placeholder _ => True

def EachWritable : List Expr → Prop
  | [] => True
  | expr :: rest => expr.Writable ∧ EachWritable rest
end

/-- An entry of a column list that can be written. What is no name and no call is kept as an
expression. -/
def Column.Writable : Column → Prop
  | .star => True
  | .field name label => Plain name ∧ ∀ own ∈ label, Plain own
  | .call name args label => (Expr.call name args).Writable ∧ ∀ own ∈ label, Plain own
  | .expression expr label =>
      expr.Writable ∧ Column.ofExpr expr label = .expression expr label ∧ ∀ own ∈ label, Plain own

/-- A SELECT of which every part can be written. -/
def Select.Writable : Select → Prop
  | ⟨columns, .table name, _, filter, limit⟩ =>
      (∀ column ∈ columns, column.Writable) ∧ Plain name ∧ (∀ expr ∈ filter, expr.Writable) ∧
        ∀ count ∈ limit, count < 0x8000000000000000
  | ⟨columns, .nested inner, _, filter, limit⟩ =>
      (∀ column ∈ columns, column.Writable) ∧ inner.Writable ∧ (∀ expr ∈ filter, expr.Writable) ∧
        ∀ count ∈ limit, count < 0x8000000000000000

/-- No column list of a SELECT is empty. -/
def Select.HasColumns : Select → Prop
  | ⟨columns, .table _, _, _, _⟩ => columns ≠ []
  | ⟨columns, .nested inner, _, _, _⟩ => columns ≠ [] ∧ inner.HasColumns

end RecordQuery.Sql
