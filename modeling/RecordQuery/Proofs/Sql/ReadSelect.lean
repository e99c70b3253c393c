import RecordQuery.Proofs.Sql.ReadBack

/-!
# Reading written SELECTs

A written SELECT is read back up to the parenthesis that closes it or the end of the input, and its
source has the position where the source is written. The induction is on the nesting of SELECTs.
-/

namespace RecordQuery.Sql

variable {tokens rest behind : List Located} {n m k position : Nat} {expr : Expr}

/-! ## Column lists -/

/-- Whether a name follows: of a column or of a nested SELECT. -/
def isLabel : Token → Bool
  | .keyword .as_ | .identifier _ => true
  | _ => false

theorem isLabel_eq_false
    (noAs : ∀ position rest, tokens = ⟨.keyword .as_, position⟩ :: rest → False)
    (noName : ∀ name position rest, tokens = ⟨.identifier name, position⟩ :: rest → False) :
    ahead isLabel tokens = false := by
  refine ahead_eq_false fun token position rest same => ?_
  cases token with
  | keyword word => cases word <;> first | rfl | exact absurd same (noAs _ _)
  | identifier name => exact absurd same (noName _ _ _)
  | _ => rfl

/-- Whether an entry of a column list goes on with a token. -/
def entryGoesOn (token : Token) : Bool := Level.operand.goesOn token || isLabel token

theorem ahead_entryGoesOn (other : ahead entryGoesOn rest = false) :
    ahead (Level.goesOn .operand) rest = false ∧ ahead isLabel rest = false := by
  cases rest with
  | nil => exact ⟨rfl, rfl⟩
  | cons located more => exact Bool.or_eq_false_iff.1 other

/-- An operand without a name behind it. -/
theorem gives_unlabelled (own : Gives (primary tokens n) expr rest m)
    (other : ahead isLabel rest = false) :
    Gives (column tokens n) (.ofExpr expr none) rest m := by
  rcases own with ⟨shorter, own⟩
  have start := startsNone_of_primary own
  rw [column.eq_def]
  split
  · cases start
  · rw [own, Outcome.ok_bind]
    dsimp only
    split
    · cases other
    · cases other
    · exact ⟨_, rfl⟩

/-- An operand with its name behind `AS`. -/
theorem gives_labelled {label : String} {place : Nat} (own : Gives (primary tokens n) expr
      (⟨.keyword .as_, position⟩ :: ⟨.identifier label, place⟩ :: rest) m) :
    Gives (column tokens n) (.ofExpr expr (some label)) rest m := by
  rcases own with ⟨shorter, own⟩
  have start := startsNone_of_primary own
  rw [column.eq_def]
  split
  · cases start
  · rw [own]
    exact ⟨_, rfl⟩

/-- An operand with its name right behind it. -/
theorem gives_named {label : String}
    (own : Gives (primary tokens n) expr (⟨.identifier label, position⟩ :: rest) m) :
    Gives (column tokens n) (.ofExpr expr (some label)) rest m := by
  rcases own with ⟨shorter, own⟩
  have start := startsNone_of_primary own
  rw [column.eq_def]
  split
  · cases start
  · rw [own]
    exact ⟨_, rfl⟩

/-- An operand is read with the name that it has, if it has one. -/
theorem gives_ofExpr {written : List Token} (reads : Reads .operand written expr)
    (label : Option String) (row : InRow n expr.placeholders)
    (other : ahead entryGoesOn rest = false) (start : Nat) :
    Gives (column (placed start (written ++ writeLabel label) ++ rest) n) (.ofExpr expr label) rest
      (n + expr.placeholders.length) := by
  cases label with
  | none =>
      rcases ahead_entryGoesOn other with ⟨operand, name⟩
      rw [writeLabel, List.append_nil]
      exact gives_unlabelled (reads row operand) name
  | some label =>
      rw [writeLabel, placed_append, List.append_assoc]
      exact gives_labelled (reads row rfl)

/-- A written entry of a column list is read back. -/
theorem Column.gives_write {entry : Column} (writable : entry.Writable) {start : Nat}
    (row : InRow n entry.placeholders) (other : ahead entryGoesOn rest = false) :
    Gives (column (placed start entry.write ++ rest) n) entry rest
      (n + entry.placeholders.length) := by
  cases entry with
  | star =>
      rw [Column.write, placed, placed, List.singleton_append, column]
      exact ⟨_, rfl⟩
  | field name label =>
      have reads := (Expr.column name).reads_write writable.1 .operand
      exact gives_ofExpr reads label row other start
  | call name args label =>
      have reads := (Expr.call name args).reads_write writable.1 .operand
      exact gives_ofExpr reads label row other start
  | expression expr label =>
      rcases writable with ⟨writable, same, -⟩
      have own := gives_ofExpr (expr.reads_write writable .operand) label row other start
      rwa [same] at own

theorem gives_columns_last {entry : Column} (own : Gives (column tokens n) entry rest m)
    (other : ahead isComma rest = false) : Gives (columns tokens n) [entry] rest m := by
  rcases own with ⟨shorter, own⟩
  rw [columns, own, Outcome.ok_bind]
  dsimp only
  split
  · cases other
  · exact ⟨_, rfl⟩

theorem gives_columns_cons {entry : Column} {others : List Column}
    (own : Gives (column tokens n) entry (⟨.symbol .comma, position⟩ :: behind) m)
    (more : Gives (columns behind m) others rest k) :
    Gives (columns tokens n) (entry :: others) rest k := by
  rcases own with ⟨shorter, own⟩
  rw [columns, own]
  exact more.map _ _

/-- The written entries of a column list are read back up to a token that none of them goes on
with. -/
theorem gives_columns {entries : List Column} (some : entries ≠ [])
    (writable : ∀ entry ∈ entries, entry.Writable) {start : Nat}
    (row : InRow n (columnPlaceholders entries)) (other : ahead entryGoesOn rest = false)
    (comma : ahead isComma rest = false) :
    Gives (columns (placed start ([.symbol .comma].intercalate (entries.map Column.write)) ++ rest)
      n) entries rest (n + (columnPlaceholders entries).length) := by
  refine gives_separated (fun tokens n => Gives (column tokens n))
    (fun own => gives_columns_last own comma) gives_columns_cons rfl other some ?_ row
  intro entry inside start n behind row other
  exact Column.gives_write (writable entry inside) row other

/-! ## Conditions and limits -/

/-- Whether a SELECT ends before a token. -/
def endsSelect : Token → Bool
  | .symbol .rightParen | .endOfInput => true
  | _ => false

/-- A SELECT ends before a closing parenthesis and before the end of the input. -/
theorem cases_endsSelect (ends : ahead endsSelect rest = true) :
    ∃ token position more, rest = ⟨token, position⟩ :: more ∧
      (token = .symbol .rightParen ∨ token = .endOfInput) := by
  rcases rest with _ | ⟨⟨token, position⟩, more⟩
  · cases ends
  · refine ⟨token, position, more, rfl, ?_⟩
    cases token with
    | symbol sign => cases sign <;> first | exact .inl rfl | cases ends
    | endOfInput => exact .inr rfl
    | _ => cases ends

/-- No other token stands where a SELECT ends. -/
theorem ahead_of_endsSelect {kind : Token → Bool} (ends : ahead endsSelect rest = true)
    (paren : kind (.symbol .rightParen) = false) (stop : kind .endOfInput = false) :
    ahead kind rest = false := by
  rcases cases_endsSelect ends with ⟨token, position, more, rfl, rfl | rfl⟩
  · exact paren
  · exact stop

theorem ne_cons_of_ahead {kind : Token → Bool} {token : Token} (other : ahead kind rest = false)
    (own : kind token = true) : rest ≠ ⟨token, position⟩ :: behind := by
  rintro rfl
  cases own.symm.trans other

theorem ahead_writeFilter {kind : Token → Bool} (own : kind (.keyword .where_) = false)
    (other : ahead kind rest = false) (filter : Option Expr) (start : Nat) :
    ahead kind (placed start (writeFilter filter) ++ rest) = false := by
  cases filter with
  | none => exact other
  | some filter => exact own

theorem ahead_writeLimit {kind : Token → Bool} (own : kind (.keyword .limit) = false)
    (other : ahead kind rest = false) (limit : Option Nat) (start : Nat) :
    ahead kind (placed start (writeLimit limit) ++ rest) = false := by
  cases limit with
  | none => exact other
  | some limit => exact own

/-- Whether `WHERE` stands at the front. -/
def isWhere : Token → Bool
  | .keyword .where_ => true
  | _ => false

/-- Whether `LIMIT` stands at the front. -/
def isLimit : Token → Bool
  | .keyword .limit => true
  | _ => false

section Clauses

variable {α : Type} {before : Parsed α tokens} {start : Nat}

/-- A written condition is read back. -/
theorem gives_filterAt {filter : Option Expr} (writable : ∀ expr ∈ filter, expr.Writable)
    (row : InRow before.placeholders (filterPlaceholders filter))
    (other : ahead continues rest = false) (none : ahead isWhere rest = false)
    (same : before.rest = placed start (writeFilter filter) ++ rest) :
    Gives (filterAt before) (before.value, filter) rest
      (before.placeholders + (filterPlaceholders filter).length) := by
  rcases before with ⟨value, written, count, shorter⟩
  cases same
  cases filter with
  | none =>
      rw [filterAt.eq_def]
      split
      · rename_i next
        exact absurd next (ne_cons_of_ahead none rfl)
      · exact ⟨_, rfl⟩
  | some filter =>
      have own := filter.reads_write (writable filter rfl) .disjunction
      exact ((own row (ahead_continues other).1).complete other).map _ _

/-- A written limit is read back. -/
theorem gives_limitAt {limit : Option Nat} (small : ∀ count ∈ limit, count < 0x8000000000000000)
    (none : ahead isLimit rest = false)
    (same : before.rest = placed start (writeLimit limit) ++ rest) :
    Gives (limitAt before) (before.value, limit) rest before.placeholders := by
  rcases before with ⟨value, written, count, shorter⟩
  cases same
  cases limit with
  | none =>
      rw [limitAt.eq_def]
      split
      · rename_i next
        exact absurd next (ne_cons_of_ahead none rfl)
      · rename_i next
        exact absurd next (ne_cons_of_ahead none rfl)
      · exact ⟨_, rfl⟩
  | some limit =>
      have size : (Int64.ofNat limit).toInt.toNat = limit := by
        rw [Int64.toInt_ofNat_of_lt (small limit rfl), Int.toNat_natCast]
      have own : Gives
          (limitAt ⟨value, placed start (writeLimit (some limit)) ++ rest, count, shorter⟩)
          (value, some (Int64.ofNat limit).toInt.toNat) rest count := ⟨_, rfl⟩
      rwa [size] at own

/-- Where no name follows, none is dropped. -/
theorem gives_skipLabel (other : ahead isLabel before.rest = false) :
    Gives (skipLabel before) before.value before.rest before.placeholders := by
  rcases before with ⟨value, written, count, shorter⟩
  rw [skipLabel.eq_def]
  split
  · rename_i next
    exact absurd next (ne_cons_of_ahead other rfl)
  · rename_i next
    exact absurd next (ne_cons_of_ahead other rfl)
  · exact ⟨_, rfl⟩

end Clauses

/-! ## SELECT -/

/-- Where tokens stand, they are read as the source of a SELECT. -/
def ReadsSource (offset : Nat) (written : List Token) (origin : Source Select) : Prop :=
  ∀ ⦃n : Nat⦄ ⦃rest : List Located⦄, InRow n origin.placeholders → ahead isLabel rest = false →
    Gives (source (placed offset written ++ rest) n) origin rest (n + origin.placeholders.length)

theorem readsSource_table (name : String) (offset : Nat) :
    ReadsSource offset [.identifier name] (.table name) := by
  intro n rest row other
  rw [placed, placed, List.singleton_append, source]
  · exact ⟨_, rfl⟩
  · intro position inner same
    cases same

/-- A nested SELECT is read between parentheses. -/
theorem readsSource_nested {select : Select} {offset : Nat} {written : List Token}
    (own : ∀ n rest, InRow n select.placeholders → ahead endsSelect rest = true →
      Gives (Sql.select (placed (offset + (spell [.symbol .leftParen]).length) written ++ rest) n)
        select rest (n + select.placeholders.length)) :
    ReadsSource offset (.symbol .leftParen :: (written ++ [.symbol .rightParen]))
      (.nested select) := by
  intro n rest row other
  rw [placed, placed_append, placed, placed, List.cons_append, List.append_assoc,
    List.singleton_append]
  rcases own n (⟨.symbol .rightParen, _⟩ :: rest) row rfl with ⟨shorter, own⟩
  rw [source, own, Outcome.ok_bind, expect, if_pos rfl, Outcome.ok_bind]
  exact gives_skipLabel other

/-- A SELECT is read when its parts are, one behind the other. -/
theorem gives_select_parts {entries : List Column} {origin : Source Select} {filter : Option Expr}
    {limit : Option Nat} {first : Token} {offset l : Nat} {behind after : List Located}
    (last : List Located)
    (list : Gives (columns tokens n) entries
      (⟨.keyword .from_, position⟩ :: ⟨first, offset⟩ :: behind) m)
    (own : Gives (source (⟨first, offset⟩ :: behind) m) origin after k)
    (filters : ∀ before : Parsed (Source Select) (⟨first, offset⟩ :: behind),
      before.rest = after → before.placeholders = k →
        Gives (filterAt before) (before.value, filter) last l)
    (limits : ∀ before : Parsed (Source Select × Option Expr) (⟨first, offset⟩ :: behind),
      before.rest = last → Gives (limitAt before) (before.value, limit) rest before.placeholders)
    (start : Nat) :
    Gives (select (⟨.keyword .select, start⟩ :: tokens) n) ⟨entries, origin, offset, filter, limit⟩
      rest l := by
  rcases list with ⟨shorter, list⟩
  rcases own with ⟨less, own⟩
  rcases filters ⟨origin, after, k, less⟩ rfl rfl with ⟨within, filtered⟩
  rcases limits ⟨(origin, filter), last, l, within⟩ rfl with ⟨inside, limited⟩
  rw [select, expect, if_pos rfl, Outcome.ok_bind]
  dsimp only
  rw [list, Outcome.ok_bind, expect, if_pos rfl, Outcome.ok_bind]
  dsimp only
  rw [own, Outcome.ok_bind, filtered, Outcome.ok_bind, limited]
  exact ⟨_, rfl⟩

/-- A written SELECT is read back when its source is, which stands where it is written. -/
theorem gives_select {entries : List Column} {origin : Source Select} {filter : Option Expr}
    {limit : Option Nat} {first : Token} {written : List Token} {start : Nat}
    (some : entries ≠ []) (listed : ∀ entry ∈ entries, entry.Writable)
    (filters : ∀ expr ∈ filter, expr.Writable)
    (small : ∀ count ∈ limit, count < 0x8000000000000000)
    (own : ReadsSource (start + (spell (writeColumns entries)).length) (first :: written) origin)
    (row : InRow n
      (columnPlaceholders entries ++ (origin.placeholders ++ filterPlaceholders filter)))
    (ends : ahead endsSelect rest = true) :
    Gives (select (placed start (writeColumns entries ++
        first :: (written ++ writeClauses filter limit)) ++ rest) n)
      ⟨entries, origin, start + (spell (writeColumns entries)).length, filter, limit⟩ rest
      (n + (columnPlaceholders entries ++
        (origin.placeholders ++ filterPlaceholders filter)).length) := by
  rcases row.split with ⟨rowColumns, row⟩
  rcases row.split with ⟨rowSource, rowFilter⟩
  rw [placed_append, ← List.cons_append, placed_append, writeClauses, placed_append,
    List.append_assoc, List.append_assoc, List.append_assoc]
  generalize start + (spell (writeColumns entries)).length = offset at own ⊢
  generalize offset + (spell (first :: written)).length = middle
  generalize middle + (spell (writeFilter filter)).length = last
  have behind {kind : Token → Bool} (own : kind (.keyword .limit) = false)
      (paren : kind (.symbol .rightParen) = false) (stop : kind .endOfInput = false) :
      ahead kind (placed last (writeLimit limit) ++ rest) = false :=
    ahead_writeLimit own (ahead_of_endsSelect ends paren stop) limit last
  rw [List.length_append, List.length_append, ← Nat.add_assoc, ← Nat.add_assoc]
  rw [writeColumns, placed, placed_append, placed, placed, List.cons_append, List.append_assoc,
    List.singleton_append]
  refine gives_select_parts (placed last (writeLimit limit) ++ rest)
    (gives_columns some listed rowColumns rfl rfl)
    (own rowSource (ahead_writeFilter rfl (behind rfl rfl rfl) filter middle)) ?_ ?_ start
  · intro before same count
    rw [← count] at rowFilter ⊢
    exact gives_filterAt filters rowFilter (behind rfl rfl rfl) (behind rfl rfl rfl) same
  · intro before same
    exact gives_limitAt small (ahead_of_endsSelect ends rfl rfl) same

@[simp] theorem Select.placeholders_placedAt (select : Select) (start : Nat) :
    (select.placedAt start).placeholders = select.placeholders := by
  fun_induction Select.placedAt start select with
  | case1 start entries name offset filter limit => rfl
  | case2 start entries inner offset filter limit position ih =>
      rw [Select.placeholders, Select.placeholders, ih]

/-- A written SELECT is read back up to where it ends, with each source where it is written. -/
theorem Select.gives_write (select : Select) (writable : select.Writable)
    (listed : select.HasColumns) (row : InRow n select.placeholders)
    (ends : ahead endsSelect rest = true) (start : Nat) :
    Gives (Sql.select (placed start select.write ++ rest) n) (select.placedAt start) rest
      (n + select.placeholders.length) := by
  fun_induction Select.write select generalizing start n rest with
  | case1 entries name offset filter limit =>
      rcases writable with ⟨entries_, plain, filters, small⟩
      rw [Select.placeholders] at row ⊢
      exact gives_select listed entries_ filters small (readsSource_table name _) row ends
  | case2 entries inner offset filter limit ih =>
      rcases writable with ⟨entries_, writable, filters, small⟩
      rcases listed with ⟨some, listed⟩
      have own (offset : Nat) : ReadsSource offset
          (.symbol .leftParen :: (inner.write ++ [.symbol .rightParen]))
          (.nested (inner.placedAt (offset + (spell [.symbol .leftParen]).length))) := by
        refine readsSource_nested fun n rest row ends => ?_
        rw [Select.placeholders_placedAt] at row ⊢
        exact ih writable listed row ends _
      rw [← Select.placeholders_placedAt _ start] at row ⊢
      rw [List.append_cons inner.write]
      exact gives_select some entries_ filters small (own _) row ends

end RecordQuery.Sql
