import RecordQuery.Proofs.Sql.Supplying

/-!
# Placeholders of whole texts

The placeholders of a criterion or of a SELECT are numbered from zero in the order of its text, and
there are as many of them as placeholder tokens. Each placeholder was read from the token with its
number, so literals that are written for tokens take the places of their placeholders. In a SELECT
from a table those of the column list come first, and those of the condition are the ones behind the
first `WHERE`.
-/

namespace RecordQuery.Sql

/-- The tokens of a text; none where it holds something else. -/
def tokensOf (text : String) : List Located := (tokenize text 0).toOption.getD []

/-- How many placeholders a text holds. -/
def placeholdersIn (text : String) : Nat := placeholderCount (tokensOf text)

/-- How many placeholders a text holds behind its first `WHERE`. -/
def placeholdersBehindWhere (text : String) : Nat :=
  placeholderCount ((tokensOf text).dropWhile (·.token.inExpression))

theorem placeholderCount_eq_map (tokens : List Located) :
    placeholderCount tokens = (tokens.map (·.token)).countP Token.isPlaceholder := by
  rw [placeholderCount, List.countP_map]
  rfl

/-- The placeholders of a text can be counted wherever the text starts. -/
theorem placeholdersIn_of_tokenize {text : String} {offset : Nat} {tokens : List Located}
    (found : tokenize text offset = .ok tokens) : placeholdersIn text = placeholderCount tokens := by
  have alike : (Cursor.start text 0).skip.rest = (Cursor.start text offset).skip.rest := rfl
  rcases tokenizeFrom_shift _ alike found with ⟨moved, shifted, same⟩
  have here : tokensOf text = moved := by rw [tokensOf, tokenize, shifted]; rfl
  rw [placeholdersIn, here, placeholderCount_eq_map, placeholderCount_eq_map, same]

/-- At the end of a text there are no placeholders left. -/
theorem numbered_expectEnd {here : Cursor} {tokens taken rest : List Located} {done : Unit}
    (found : tokenizeFrom here = .ok tokens) (split : tokens = taken ++ rest)
    (ended : expectEnd rest = .ok done) (n : Nat) :
    Numbered Token.inExpression rest [] n n [] := by
  unfold expectEnd at ended
  split at ended
  · cases eq_nil_of_endOfInput found split
    exact .skip rfl rfl (.refl [] n)
  · exact .refl [] n
  · cases ended

/-- A whole stretch of tokens from the start of a text numbers all its placeholders. -/
theorem Numbered.indices_eq_range {allowed : Token → Bool} {tokens : List Located} {m : Nat}
    {indices : List Nat} (numbered : Numbered allowed tokens [] 0 m indices) :
    indices = List.range (placeholderCount tokens) := by
  rcases numbered with ⟨taken, rfl, -, rfl, -⟩
  rw [List.append_nil, List.range_eq_range']

/-! ## Criteria -/

/-- The placeholders of a criterion are numbered in the order of its text. -/
theorem placeholders_of_parseCriteria {text : String} {offset : Nat} {expr : Expr}
    (found : parseCriteria text offset = .ok expr) :
    expr.placeholders = List.range (placeholdersIn text) := by
  rcases Outcome.bind_eq_ok.1 found with ⟨tokens, scanned, found⟩
  rcases Outcome.bind_eq_ok.1 found with ⟨whole, read, found⟩
  rcases Outcome.bind_eq_ok.1 found with ⟨done, ended, same⟩
  cases same
  have numbered := readsNumbered_expression tokens 0 whole read
  rcases numbered.exists_append with ⟨taken, split⟩
  have all := numbered.trans (numbered_expectEnd scanned split ended whole.placeholders)
  rw [placeholdersIn_of_tokenize scanned, ← all.indices_eq_range, List.append_nil]

/-! ## SELECT -/

/-- The SELECT of a text is read from its tokens, with no placeholder behind it. -/
theorem parseSelect_eq_ok {sql : String} {statement : Select}
    (found : parseSelect sql = .ok statement) :
    ∃ tokens whole, tokenize sql 0 = .ok tokens ∧ select tokens 0 = .ok whole ∧
      whole.value = statement ∧
      Numbered Token.inExpression whole.rest [] whole.placeholders whole.placeholders [] := by
  rcases parseSelect_eq_ok_iff.1 found with ⟨tokens, whole, scanned, read, atEnd, same⟩
  refine ⟨tokens, whole, scanned, read, same, ?_⟩
  rcases (numbered_select tokens 0 whole read).exists_append with ⟨taken, split⟩
  rcases atEnd with ended | ⟨position, rest, next, ended⟩
  · exact numbered_expectEnd scanned split ended _
  · rw [next] at split ⊢
    rw [List.append_cons] at split
    exact .skip rfl rfl (numbered_expectEnd scanned split ended _)

/-- The placeholders of a SELECT are numbered in the order of its text. -/
theorem placeholders_of_parseSelect {sql : String} {statement : Select}
    (found : parseSelect sql = .ok statement) :
    statement.placeholders = List.range (placeholdersIn sql) := by
  rcases parseSelect_eq_ok found with ⟨tokens, whole, scanned, read, rfl, behind⟩
  have all := (numbered_select tokens 0 whole read).trans behind.any
  rw [placeholdersIn_of_tokenize scanned, ← all.indices_eq_range, List.append_nil]

/-- The placeholders of a SELECT are numbered from zero in the order of its text, and there are as
many of them as placeholder tokens. Each was read from the token with its number: where literals are
written for some of the tokens, they stand in the places of the placeholders with the numbers of
these tokens, and those that stay are numbered in their order. -/
theorem placeholders_in_order {sql : String} {statement : Select}
    (found : parseSelect sql = .ok statement) :
    ∃ tokens, tokenize sql 0 = .ok tokens ∧
      statement.placeholders = List.range (placeholderCount tokens) ∧
      ∀ (supply : Supply) (text : String) (others : List Located),
        tokenize text 0 = .ok others →
        others.map (·.token) = supply.write 0 (tokens.map (·.token)) →
        ∃ again, parseSelect text = .ok again ∧
          again.unplaced = (statement.supplied supply).unplaced := by
  rcases parseSelect_eq_ok_iff.1 found with ⟨tokens, whole, tokenized, read, atEnd, rfl⟩
  refine ⟨tokens, tokenized, ?_, fun supply text others rewritten written => ?_⟩
  · rw [placeholders_of_parseSelect found, placeholdersIn_of_tokenize tokenized]
  · exact parseSelect_of_supplied read atEnd written rewritten

/-- A SELECT with placeholders in a column, in the condition of the SELECT inside it, and in its
own condition. -/
def fourAsked : String := "SELECT ? FROM (SELECT * FROM Foo WHERE Id IN (?, ?)) WHERE Id < ?"

def fourAskedTokens : List Token :=
  [.keyword .select, .placeholder, .keyword .from_, .symbol .leftParen, .keyword .select,
    .symbol .star, .keyword .from_, .identifier "Foo", .keyword .where_, .identifier "Id",
    .keyword .in_, .symbol .leftParen, .placeholder, .symbol .comma, .placeholder,
    .symbol .rightParen, .symbol .rightParen, .keyword .where_, .identifier "Id", .symbol .less,
    .placeholder, .endOfInput]

/-- A negative number and a text for the two placeholders of the nested SELECT. -/
def middleTwo : Supply
  | 1 => some ⟨.integer (-5), rfl⟩
  | 2 => some ⟨.string "x", rfl⟩
  | _ => none

/-- The two placeholders that stay are the first and the last. -/
theorem placeholders_in_order_nested :
    ∃ statement again,
      parseSelect fourAsked = .ok statement ∧ statement.placeholders = [0, 1, 2, 3] ∧
      parseSelect "SELECT ? FROM (SELECT * FROM Foo WHERE Id IN (-5, 'x')) WHERE Id < ?" =
        .ok again ∧
      again.placeholders = [0, 1] ∧
      again.unplaced = (statement.supplied middleTwo).unplaced := by
  have accepted : (parseSelect fourAsked).toOption.isSome = true := by decide +kernel
  have four : (List.map Located.token <$> tokenize fourAsked 0).toOption =
      some fourAskedTokens := by
    decide +kernel
  have two : (List.map Located.token <$>
      tokenize "SELECT ? FROM (SELECT * FROM Foo WHERE Id IN (-5, 'x')) WHERE Id < ?" 0).toOption =
        some (middleTwo.write 0 fourAskedTokens) := by
    decide +kernel
  rcases Option.isSome_iff_exists.1 accepted with ⟨statement, found⟩
  have found := Outcome.toOption_eq_some.1 found
  obtain ⟨tokens, tokenized, numbered, supplied⟩ := placeholders_in_order found
  rcases Outcome.map_eq_ok.1 (Outcome.toOption_eq_some.1 four) with ⟨_, same, read⟩
  cases tokenized.symm.trans same
  rcases Outcome.map_eq_ok.1 (Outcome.toOption_eq_some.1 two) with ⟨others, rewritten, written⟩
  rcases supplied middleTwo _ others rewritten (by rw [read]; exact written) with
    ⟨again, reread, alike⟩
  obtain ⟨_, same, renumbered, -⟩ := placeholders_in_order reread
  cases rewritten.symm.trans same
  rw [placeholderCount_eq_map, read] at numbered
  rw [placeholderCount_eq_map, written] at renumbered
  exact ⟨statement, again, found, numbered, reread, renumbered, alike⟩

/-- What stands before a `WHERE` is skipped. -/
theorem Numbered.dropWhile_inExpression {tokens rest : List Located} {n m : Nat}
    {indices : List Nat} (numbered : Numbered Token.inExpression tokens rest n m indices) :
    tokens.dropWhile (·.token.inExpression) = rest.dropWhile (·.token.inExpression) := by
  rcases numbered with ⟨taken, rfl, -, -, fits⟩
  exact List.dropWhile_append_of_pos fits

/-- In a SELECT from a table, the placeholders behind the first `WHERE` are those of the
condition, and those before it are those of the column list. -/
theorem placeholders_of_table {sql name : String} {statement : Select}
    (found : parseSelect sql = .ok statement) (flat : statement.source = .table name) :
    ∃ listed, columnPlaceholders statement.columns = List.range listed ∧
      filterPlaceholders statement.filter = List.range' listed (placeholdersBehindWhere sql) := by
  rcases parseSelect_eq_ok found with ⟨tokens, whole, scanned, read, rfl, ending⟩
  obtain ⟨middle, behind, origin, filtered, -, list, from_, sameSource, filter, sameFilter,
    limit⟩ := select_eq_ok read
  have known : tokensOf sql = tokens := by rw [tokensOf, scanned]; rfl
  have tableName : Numbered Token.inExpression behind origin.rest middle origin.placeholders [] := by
    rw [source.eq_def] at from_
    split at from_
    · rcases Outcome.bind_eq_ok.1 from_ with ⟨nested, -, from_⟩
      rcases Outcome.bind_eq_ok.1 from_ with ⟨⟨rest, closed⟩, -, from_⟩
      have same := (numbered_skipLabel from_).1
      rw [← sameSource, flat] at same
      cases same
    · rcases Outcome.bind_eq_ok.1 from_ with ⟨⟨name, rest, less⟩, named, same⟩
      cases same
      exact numbered_expectIdentifier named middle (fun _ => rfl)
  have front := list.trans tableName
  rw [List.append_nil] at front
  have after : Numbered Token.inExpression filtered.rest [] filtered.placeholders
      whole.placeholders [] := limit.trans ending
  refine ⟨origin.placeholders, ?_, ?_⟩
  · rcases front with ⟨taken, -, count, range, -⟩
    rw [range, count, List.range_eq_range', Nat.zero_add]
  rw [placeholdersBehindWhere, known, front.dropWhile_inExpression, sameFilter]
  rcases (filterAt_eq_ok filter).2 with
    ⟨position, rest, next, condition⟩ | ⟨rest, count, none⟩
  · rcases condition.trans after with ⟨taken, same, -, range, -⟩
    rw [List.append_nil] at range same
    rw [next, range, same]
    rfl
  · rw [← rest, after.dropWhile_inExpression, none]
    rfl

end RecordQuery.Sql
