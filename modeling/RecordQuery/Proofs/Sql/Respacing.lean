import RecordQuery.Proofs.Sql.Supplying

/-!
# Texts with the same tokens

What a text holds depends on its tokens and not on what stands between them: tokens carry their
positions for the sake of error messages only. The same tokens at other positions are tokens for
which no literals are supplied. So a condition is read from every text with its tokens, at any place
of a statement, and a SELECT is read up to the positions of its sources.
-/

namespace RecordQuery.Sql

/-- The same tokens, perhaps at other positions. -/
def Alike (tokens other : List Located) : Prop := tokens.map (·.token) = other.map (·.token)

theorem Alike.supplied {tokens other : List Located} (alike : Alike tokens other) (n : Nat) :
    Supplied .nothing n tokens other := by
  rw [Supplied, Supply.write_nothing]
  exact alike.symm

/-- A condition is read from tokens at other positions. -/
theorem parseCriteria_of_alike {text : String} {offset : Nat} {tokens moved : List Located}
    {whole : Parsed Expr tokens} (read : expression tokens 0 = .ok whole)
    (ended : expectEnd whole.rest = .ok ()) (alike : Alike tokens moved)
    (tokenized : tokenize text offset = .ok moved) :
    parseCriteria text offset = .ok whole.value := by
  have own := parseCriteria_of_supplied read ended (alike.supplied 0) tokenized
  rwa [Expr.supplied_nothing] at own

/-- A text that holds a condition holds it wherever it starts. -/
theorem parseCriteria_shift {text : String} {offset other : Nat} {expr : Expr}
    (found : parseCriteria text offset = .ok expr) : parseCriteria text other = .ok expr := by
  rcases Outcome.bind_eq_ok.1 found with ⟨tokens, tokenized, found⟩
  rcases Outcome.bind_eq_ok.1 found with ⟨whole, read, found⟩
  rcases Outcome.bind_eq_ok.1 found with ⟨_, ended, same⟩
  cases same
  have front : (Cursor.start text other).skip.rest = (Cursor.start text offset).skip.rest := rfl
  rcases tokenizeFrom_shift _ front tokenized with ⟨moved, retokenized, same⟩
  exact parseCriteria_of_alike read ended same.symm retokenized

/-- Tokens are the same wherever they stand. -/
theorem alike_placed {written : List Token} {tokens : List Located}
    (same : tokens.map (·.token) = written ++ [.endOfInput]) :
    Alike (placed 0 written ++ [⟨.endOfInput, 0⟩]) tokens := by
  rw [Alike, List.map_append, map_token_placed, same]
  rfl

/-- A condition is read from every text with its tokens. -/
theorem parseCriteria_of_tokens {text : String} {offset : Nat} {tokens : List Located} {expr : Expr}
    (tokenized : tokenize text offset = .ok tokens)
    (same : tokens.map (·.token) = expr.write .disjunction ++ [.endOfInput])
    (writable : expr.Writable) (row : InRow 0 expr.placeholders) :
    parseCriteria text offset = .ok expr := by
  have stop : ahead Level.disjunction.goesOn [⟨.endOfInput, 0⟩] = false := rfl
  have own := @expr.reads_write writable .disjunction 0 0 _ row stop
  rcases own.complete rfl with ⟨shorter, read⟩
  exact parseCriteria_of_alike read rfl (alike_placed same) tokenized

/-- A SELECT is read from every text with its tokens. -/
theorem parseSelect_of_tokens {text : String} {tokens : List Located} {select : Select}
    (tokenized : tokenize text 0 = .ok tokens)
    (same : tokens.map (·.token) = select.write ++ [.endOfInput])
    (writable : select.Writable) (listed : select.HasColumns) (row : InRow 0 select.placeholders) :
    ∃ found, parseSelect text = .ok found ∧ found.unplaced = select.unplaced := by
  have stop : ahead endsSelect [⟨.endOfInput, 0⟩] = true := rfl
  rcases select.gives_write writable listed row stop 0 with ⟨shorter, read⟩
  rcases parseSelect_of_supplied read (.inl rfl) ((alike_placed same).supplied 0) tokenized with
    ⟨again, found, sameSelect⟩
  rw [Select.supplied_nothing, Select.unplaced_placedAt] at sameSelect
  exact ⟨again, found, sameSelect⟩

end RecordQuery.Sql
