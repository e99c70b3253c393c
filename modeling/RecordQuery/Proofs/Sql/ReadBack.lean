import RecordQuery.Proofs.Sql.Rules
import RecordQuery.Proofs.Sql.Spelling

/-!
# Reading written expressions

A written expression is read back at its place, whatever follows it that no expression there goes on
with. The induction is on the expression; at each place the rules of the readers put together what
is read of its parts.
-/

namespace RecordQuery.Sql

/-! ## Numbers of placeholders -/

/-- Numbers that are given in a row from `n` on. -/
def InRow (n : Nat) (indices : List Nat) : Prop := indices = List.range' n indices.length

theorem InRow.split {n : Nat} {first second : List Nat} (row : InRow n (first ++ second)) :
    InRow n first ∧ InRow (n + first.length) second := by
  rcases split_range' row with ⟨front, behind, -⟩
  exact ⟨front, behind⟩

/-! ## Induction -/

/-- Induction on an expression, where the parts of lists are parts of it. -/
theorem Expr.induction {motive : Expr → Prop} (column : ∀ name, motive (.column name))
    (qualified : ∀ table column, motive (.qualified table column))
    (integer : ∀ value, motive (.integer value)) (float : ∀ value, motive (.float value))
    (string : ∀ value, motive (.string value)) (boolean : ∀ value, motive (.boolean value))
    (null : motive .null) (placeholder : ∀ index, motive (.placeholder index))
    (binary : ∀ op left right, motive left → motive right → motive (.binary op left right))
    (not : ∀ operand, motive operand → motive (.not operand))
    (isNull : ∀ operand, motive operand → motive (.isNull operand))
    (isNotNull : ∀ operand, motive operand → motive (.isNotNull operand))
    (inList : ∀ operand items negated, motive operand → (∀ item ∈ items, motive item) →
      motive (.inList operand items negated))
    (call : ∀ name args, (∀ arg ∈ args, motive arg) → motive (.call name args)) (expr : Expr) :
    motive expr := by
  refine @Expr.rec motive (fun items => ∀ item ∈ items, motive item) column qualified integer float
    string boolean null placeholder binary not isNull isNotNull inList call ?_ ?_ expr
  · intro item inside
    cases inside
  · intro first rest own others item inside
    rcases List.mem_cons.1 inside with rfl | inside
    · exact own
    · exact others item inside

theorem writable_of_mem {items : List Expr} (writable : EachWritable items) {item : Expr}
    (inside : item ∈ items) : item.Writable := by
  induction items with
  | nil => cases inside
  | cons first rest ih =>
      rcases List.mem_cons.1 inside with rfl | inside
      · exact writable.1
      · exact ih writable.2 inside

/-! ## Expressions at places -/

/-- Wherever the tokens stand, they are read as an expression at a place. -/
def Reads (place : Level) (written : List Token) (expr : Expr) : Prop :=
  ∀ ⦃start n : Nat⦄ ⦃rest : List Located⦄, InRow n expr.placeholders →
    ahead place.goesOn rest = false →
    place.Gives (placed start written ++ rest) n expr rest (n + expr.placeholders.length)

theorem rank_le_operand (place : Level) : place.rank ≤ Level.operand.rank := by
  cases place <;> decide

namespace Reads

variable {place own : Level} {written front back : List Token} {expr left right : Expr}

/-- An operand stands everywhere. -/
theorem of_operand (reads : Reads .operand written expr) : Reads place written expr := by
  intro start n rest row other
  have le := rank_le_operand place
  exact (reads row (ahead_goesOn_mono le other)).loosen le other

/-- Between parentheses every expression is an operand. -/
theorem enclosed (reads : Reads own written expr) :
    Reads place (enclosed own place written) expr := by
  rw [Sql.enclosed]
  split
  · refine of_operand ?_
    intro start n rest row other
    rw [placed, placed_append, placed, placed, List.cons_append, List.append_assoc,
      List.singleton_append]
    exact gives_parens ((reads row rfl).complete rfl) start
  · rename_i tighter
    have le : place.rank ≤ own.rank := Nat.le_of_not_lt tighter
    intro start n rest row other
    exact (reads row (ahead_goesOn_mono le other)).loosen le other

/-- An operand without placeholders. -/
theorem of_primary (none : expr.placeholders = [])
    (own : ∀ start n rest, ahead (Level.goesOn .operand) rest = false →
      Gives (primary (placed start written ++ rest) n) expr rest n) : Reads place written expr := by
  refine of_operand ?_
  intro start n rest row other
  rw [none]
  exact own start n rest other

/-- Operands joined by `OR` stand where `OR` may. -/
theorem or (first : Reads .disjunction front left) (second : Reads .conjunction back right) :
    Reads .disjunction (front ++ .keyword .or_ :: back) (.binary .or left right) := by
  intro start n rest row other whole last k joins
  rw [Expr.placeholders] at row joins
  rcases row.split with ⟨rowLeft, rowRight⟩
  rw [List.length_append, ← Nat.add_assoc] at joins
  rw [placed_append, placed, List.append_assoc, List.cons_append]
  refine first rowLeft rfl _ _ _ (.more (gives_read .or ?_ joins))
  exact second rowRight (ahead_goesOn_mono (by decide) other) _ _ _ (.done (ahead_isWord_and other))

/-- Operands joined by `AND` stand where `AND` may. -/
theorem and (first : Reads .conjunction front left) (second : Reads .negation back right) :
    Reads .conjunction (front ++ .keyword .and_ :: back) (.binary .and left right) := by
  intro start n rest row other whole last k joins
  rw [Expr.placeholders] at row joins
  rcases row.split with ⟨rowLeft, rowRight⟩
  rw [List.length_append, ← Nat.add_assoc] at joins
  rw [placed_append, placed, List.append_assoc, List.cons_append]
  refine first rowLeft rfl _ _ _ (.more (gives_read .and ?_ joins))
  exact second rowRight (ahead_goesOn_mono (by decide) other)

theorem not (reads : Reads .negation written expr) :
    Reads .negation (.keyword .not_ :: written) (.not expr) := by
  intro start n rest row other
  rw [Expr.placeholders] at row ⊢
  exact gives_not (reads row other) start

theorem compare {op : CompareOp} (first : Reads .operand front left)
    (second : Reads .operand back right) :
    Reads .comparison (front ++ .symbol op.symbol :: back)
      (.binary (.compare op) left right) := by
  intro start n rest row other
  rw [Expr.placeholders] at row ⊢
  rcases row.split with ⟨rowLeft, rowRight⟩
  rw [placed_append, placed, List.append_assoc, List.cons_append, List.length_append,
    ← Nat.add_assoc]
  have behind (position : Nat) (more : List Located) :
      ahead (Level.goesOn .operand) (⟨.symbol op.symbol, position⟩ :: more) = false := by
    cases op <;> rfl
  refine gives_compare (first rowLeft (behind _ _)) ?_
  exact second rowRight (ahead_goesOn_mono (by decide) other)

theorem isNull (reads : Reads .operand written expr) :
    Reads .comparison (written ++ [.keyword .is_, .keyword .null]) (.isNull expr) := by
  intro start n rest row other
  rw [Expr.placeholders] at row ⊢
  rw [placed_append, placed, placed, placed, List.append_assoc]
  exact gives_isNull (reads row rfl)

theorem isNotNull (reads : Reads .operand written expr) :
    Reads .comparison (written ++ [.keyword .is_, .keyword .not_, .keyword .null])
      (.isNotNull expr) := by
  intro start n rest row other
  rw [Expr.placeholders] at row ⊢
  rw [placed_append, placed, placed, placed, placed, List.append_assoc]
  exact gives_isNotNull (reads row rfl)

end Reads

/-! ## Lists -/

/-- Entries with commas between them are read one after the other, where each of them is read up to
a token that no entry goes on with. -/
theorem gives_separated {α : Type}
    {read : (tokens : List Located) → Nat → QueryResult (Parsed (List α) tokens)}
    (reads : List Located → Nat → α → List Located → Nat → Prop) {write : α → List Token}
    {numbers : α → List Nat} {goesOn : Token → Bool} {rest : List Located}
    (last : ∀ {tokens n entry m}, reads tokens n entry rest m →
      Gives (read tokens n) [entry] rest m)
    (cons : ∀ {tokens n entry position behind m others k},
      reads tokens n entry (⟨.symbol .comma, position⟩ :: behind) m →
        Gives (read behind m) others rest k → Gives (read tokens n) (entry :: others) rest k)
    (comma : goesOn (.symbol .comma) = false) (other : ahead goesOn rest = false)
    {entries : List α} (some : entries ≠ [])
    (each : ∀ entry ∈ entries, ∀ start n behind, InRow n (numbers entry) →
      ahead goesOn behind = false →
        reads (placed start (write entry) ++ behind) n entry behind (n + (numbers entry).length))
    {start n : Nat} (row : InRow n (entries.flatMap numbers)) :
    Gives (read (placed start ([.symbol .comma].intercalate (entries.map write)) ++ rest) n)
      entries rest (n + (entries.flatMap numbers).length) := by
  induction entries generalizing start n with
  | nil => exact absurd rfl some
  | cons first others ih =>
      have own := each first List.mem_cons_self
      cases others with
      | nil =>
          rw [List.flatMap_singleton] at row ⊢
          rw [List.map_singleton, List.intercalate_singleton]
          exact last (own start n rest row other)
      | cons second more =>
          have behind := fun entry inside => each entry (List.mem_cons_of_mem first inside)
          rw [List.flatMap_cons] at row ⊢
          rcases row.split with ⟨rowFirst, rowOthers⟩
          rw [List.map_cons, List.map_cons, List.intercalate_cons_cons, ← List.map_cons,
            List.append_assoc, placed_append, List.singleton_append, placed, List.append_assoc,
            List.cons_append, List.length_append, ← Nat.add_assoc]
          exact cons (own start n _ rowFirst comma) (ih (by simp) behind rowOthers)

theorem writeEach_eq_map (items : List Expr) :
    writeEach items = items.map (Expr.write .disjunction) := by
  induction items with
  | nil => rfl
  | cons first rest ih => rw [writeEach, ih, List.map_cons]

theorem placeholdersOf_eq_flatMap (items : List Expr) :
    placeholdersOf items = items.flatMap Expr.placeholders := by
  induction items with
  | nil => rfl
  | cons first rest ih => rw [placeholdersOf, ih, List.flatMap_cons]

section Lists

variable {items : List Expr} {start n : Nat} {rest : List Located}

/-- The items of a list are read up to a token that none of them goes on with. -/
theorem gives_expressions (some : items ≠ [])
    (each : ∀ item ∈ items, Reads .disjunction (item.write .disjunction) item)
    (row : InRow n (placeholdersOf items)) (other : ahead continues rest = false)
    (comma : ahead isComma rest = false) :
    Gives (expressions (placed start ([.symbol .comma].intercalate (writeEach items)) ++ rest) n)
      items rest (n + (placeholdersOf items).length) := by
  rw [placeholdersOf_eq_flatMap] at row ⊢
  rw [writeEach_eq_map]
  refine gives_separated (fun tokens n => Gives (disjunction none tokens n))
    (fun own => gives_expressions_last own comma) gives_expressions_cons rfl other some ?_ row
  intro item inside start n behind row other
  exact (each item inside row (ahead_continues other).1).complete other

/-- Whether an argument goes on with a token: the target of a cast stands behind `AS`. -/
def argumentGoesOn (token : Token) : Bool := continues token || isAs token

theorem ahead_argumentGoesOn (other : ahead argumentGoesOn rest = false) :
    ahead continues rest = false ∧ ahead isAs rest = false := by
  cases rest with
  | nil => exact ⟨rfl, rfl⟩
  | cons located more => exact Bool.or_eq_false_iff.1 other

/-- The arguments of a call are read up to a token that none of them goes on with. -/
theorem gives_arguments (some : items ≠ [])
    (each : ∀ item ∈ items, Reads .disjunction (item.write .disjunction) item)
    (row : InRow n (placeholdersOf items)) (other : ahead argumentGoesOn rest = false)
    (comma : ahead isComma rest = false) :
    Gives (arguments (placed start ([.symbol .comma].intercalate (writeEach items)) ++ rest) n)
      items rest (n + (placeholdersOf items).length) := by
  rw [placeholdersOf_eq_flatMap] at row ⊢
  rw [writeEach_eq_map]
  refine gives_separated (fun tokens n item => Gives (argument tokens n) [item])
    (fun own => gives_arguments_last own comma) gives_arguments_cons rfl other some ?_ row
  intro item inside start n behind row other
  rcases ahead_argumentGoesOn other with ⟨whole, target⟩
  exact gives_argument ((each item inside row (ahead_continues whole).1).complete whole) target

end Lists

/-- The target of a cast stands behind `AS`, and everything else behind a comma. -/
theorem separator_cases (name : String) (args : List Expr) :
    separator name args = .symbol .comma ∨
      ∃ source target, args = [source, .column target] ∧
        separator name args = .keyword .as_ := by
  rw [separator.eq_def]
  split
  · split
    · exact .inr ⟨_, _, rfl, rfl⟩
    · exact .inl rfl
  · exact .inl rfl

namespace Reads

variable {written : List Token} {expr : Expr} {items : List Expr} {name : String}

theorem inList (reads : Reads .operand written expr) (some : items ≠ [])
    (each : ∀ item ∈ items, Reads .disjunction (item.write .disjunction) item) (negated : Bool) :
    Reads .comparison
      (written ++ (if negated then [.keyword .not_] else []) ++
        .keyword .in_ :: .symbol .leftParen ::
          ([.symbol .comma].intercalate (writeEach items) ++ [.symbol .rightParen]))
      (.inList expr items negated) := by
  intro start n rest row other
  rw [Expr.placeholders] at row ⊢
  rcases row.split with ⟨rowOperand, rowItems⟩
  rw [List.length_append, ← Nat.add_assoc]
  cases negated with
  | false =>
      rw [if_neg (by decide), List.append_nil]
      simp only [placed_append, placed, List.append_assoc, List.cons_append, List.nil_append]
      exact gives_inList (reads rowOperand rfl)
        (gives_listInParens (gives_expressions some each rowItems rfl rfl) _)
  | true =>
      rw [if_pos rfl]
      simp only [placed_append, placed, List.append_assoc, List.cons_append, List.nil_append]
      exact gives_notInList (reads rowOperand rfl)
        (gives_listInParens (gives_expressions some each rowItems rfl rfl) _)

theorem call (each : ∀ arg ∈ items, Reads .disjunction (arg.write .disjunction) arg) :
    Reads .operand
      (.identifier name :: .symbol .leftParen ::
        ([separator name items].intercalate (writeEach items) ++ [.symbol .rightParen]))
      (.call name items) := by
  intro start n rest row other
  rw [Expr.placeholders] at row ⊢
  simp only [placed_append, placed, List.append_assoc, List.cons_append, List.nil_append]
  by_cases none : items = []
  · subst none
    exact gives_call_nil _ _ _
  rcases separator_cases name items with comma | ⟨source, target, rfl, as_⟩
  · rw [comma]
    exact gives_call (gives_arguments none each row rfl rfl) _ _
  · rw [as_, writeEach, writeEach, writeEach, Expr.write, List.intercalate_cons_cons,
      List.intercalate_singleton]
    have own : Reads .disjunction (source.write .disjunction) source :=
      each source List.mem_cons_self
    have none : placeholdersOf [source, .column target] = source.placeholders := by
      simp [placeholdersOf, Expr.placeholders]
    rw [none] at row ⊢
    simp only [placed_append, placed, List.append_assoc, List.cons_append, List.nil_append]
    exact gives_call (gives_arguments_last (gives_target ((own row rfl).complete rfl)) rfl) _ _

end Reads

/-- A written expression is read back at its place. -/
theorem Expr.reads_write (expr : Expr) (writable : expr.Writable) (place : Level) :
    Reads place (expr.write place) expr := by
  induction expr using Expr.induction generalizing place with
  | column name => exact Reads.of_primary rfl fun start n rest other => gives_column other start
  | qualified table column =>
      exact Reads.of_primary rfl fun start n rest other => gives_qualified _ _ _
  | integer value =>
      exact Reads.of_primary rfl fun start n rest other => gives_integer (map_token_placed start _)
  | float value =>
      exact Reads.of_primary rfl fun start n rest other => gives_float (map_token_placed start _)
  | string value =>
      refine Reads.of_primary rfl fun start n rest other => ?_
      rw [Expr.write, placed, List.cons_append, primary]
      exact ⟨_, rfl⟩
  | boolean value =>
      refine Reads.of_primary rfl fun start n rest other => ?_
      cases value with
      | false =>
          rw [Expr.write, if_neg (by decide), placed, List.cons_append, primary]
          exact ⟨_, rfl⟩
      | true =>
          rw [Expr.write, if_pos rfl, placed, List.cons_append, primary]
          exact ⟨_, rfl⟩
  | null =>
      refine Reads.of_primary rfl fun start n rest other => ?_
      rw [Expr.write, placed, List.cons_append, primary]
      exact ⟨_, rfl⟩
  | placeholder index =>
      refine Reads.of_operand ?_
      intro start n rest row other
      cases row
      rw [Expr.write, placed, placed, List.singleton_append, Level.Gives, primary]
      exact ⟨_, rfl⟩
  | binary op left right ihLeft ihRight =>
      have first := ihLeft writable.1
      have second := ihRight writable.2
      cases op with
      | or => exact ((first .disjunction).or (second .conjunction)).enclosed
      | and => exact ((first .conjunction).and (second .negation)).enclosed
      | compare op => exact ((first .operand).compare (second .operand)).enclosed
  | not operand ih => exact ((ih writable .negation).not).enclosed
  | isNull operand ih => exact ((ih writable .operand).isNull).enclosed
  | isNotNull operand ih => exact ((ih writable .operand).isNotNull).enclosed
  | inList operand items negated ihOperand ihItems =>
      rcases writable with ⟨writable, some, items⟩
      have each := fun item inside =>
        ihItems item inside (writable_of_mem items inside) .disjunction
      exact ((ihOperand writable .operand).inList some each negated).enclosed
  | call name args ih =>
      have each := fun arg inside => ih arg inside (writable_of_mem writable.2 inside) .disjunction
      exact Reads.of_operand (Reads.call each)

end RecordQuery.Sql
