import RecordQuery.Proofs.Path.Faults
import RecordQuery.Proofs.Query.Refusals

/-!
# Where syntax faults are shown

A statement is read in three texts, one inside the other: the statement itself, the selector behind
`FROM`, and the conditions in the brackets of the selector. Whichever of them a query is refused
for, the position of the fault is one of the statement. What is shown there are the characters of
the statement or a token that starts there.
-/

namespace RecordQuery

open Outcome
open Sql (Located Select Token)

/-! ## The selector of a statement -/

namespace Sql

/-- A name stands where its token does, behind the grave accent where there is one. -/
theorem prefix_of_scanToken {text after : List Char} {name : String}
    (scanned : scanToken text = .ok (.identifier name, after)) :
    (∃ inner, text = '\x60' :: inner ∧ name.toList <+: inner) ∨
      (text[0]? ≠ some '\x60' ∧ name.toList <+: text) := by
  rcases text with _ | ⟨c, rest⟩
  · cases scanned
  unfold scanToken at scanned
  dsimp only at scanned
  split at scanned
  · unfold scanNumber at scanned
    dsimp only at scanned
    split at scanned
    · split at scanned
      · cases scanned
      · split at scanned <;> cases scanned
    · split at scanned <;> cases scanned
  split at scanned
  · split at scanned <;> cases scanned
  split at scanned
  · rename_i accent
    split at scanned <;> cases scanned
    rw [String.toList_ofList]
    exact .inl ⟨rest, congrArg (· :: rest) (beq_iff_eq.1 accent), List.takeWhile_prefix _⟩
  split at scanned
  · rename_i accent _
    rw [wordToken] at scanned
    split at scanned <;> cases scanned
    rw [String.toList_ofList]
    exact .inr ⟨fun same => accent (by simpa using same), List.takeWhile_prefix _⟩
  · split at scanned <;> cases scanned
    rename_i symbol
    unfold scanSymbol at symbol
    split at symbol <;> cases symbol

end Sql

namespace Query

/-- The position of the selector of a SELECT. A grave accent in front does not belong to it. -/
def selectorOffset (sql : String) (select : Select) : Nat :=
  if sql.toList[select.sourceOffset]? == some '\x60' then select.sourceOffset + 1
  else select.sourceOffset

/-- The selector of a statement stands at its position. -/
theorem selector_prefix_drop {sql selector : String} {select : Select}
    (named : select.Named (·.TokenOf sql 0)) (table : select.source = .table selector) :
    selector.toList <+: sql.toList.drop (selectorOffset sql select) := by
  rcases (named selector table).startsIn.scanned with ⟨passed, rest, after, split, place, scanned⟩
  -- Whether there is a grave accent is looked up at the position of the token.
  have here : select.sourceOffset = passed.length := place.trans (Nat.zero_add _)
  have front : sql.toList[passed.length]? = rest[0]? := by
    rw [split, List.getElem?_append_right (Nat.le_refl _), Nat.sub_self]
  rw [selectorOffset, here, front, split]
  rcases Sql.prefix_of_scanToken scanned with ⟨inner, rfl, stands⟩ | ⟨plain, stands⟩
  · rw [if_pos (by rfl), ← List.drop_drop, List.drop_left]
    exact stands
  · rw [if_neg (by simpa using plain), List.drop_left]
    exact stands

end Query

/-! ## Compilation -/

/-- What is shown of a statement at one of its positions. -/
inductive ShownAt (sql : String) (fragment : String) (position : Nat) : Prop where
  /-- The statement goes on with the fragment there. -/
  | characters (some : fragment ≠ "") (goesOn : fragment.toList <+: sql.toList.drop position)
  /-- A token of the statement starts there. -/
  | token (located : Located) (tokenOf : located.TokenOf sql 0)
      (described : fragment = located.token.describe) (starts : position = located.position)
  /-- A token of a condition in brackets starts there. The condition stands in the selector, and the
  selector in the statement. -/
  | condition {select : Select} {selector text : String} {place : Nat}
      (parsed : Sql.parseSelect sql = .ok select) (table : select.source = .table selector)
      (stands : selector.toList <+: sql.toList.drop (Query.selectorOffset sql select))
      (bracketed :
        Path.Bracketed selector.toList (Query.selectorOffset sql select) text.toList place)
      (located : Located) (tokenOf : located.TokenOf text place)
      (described : fragment = located.token.describe) (starts : position = located.position)

/-- What is shown stands in the statement, or just behind its last character. -/
theorem ShownAt.position_le {sql fragment : String} {position : Nat}
    (shown : ShownAt sql fragment position) : position ≤ sql.length := by
  rw [← String.length_toList]
  cases shown with
  | characters some goesOn =>
      refine Nat.le_of_not_lt fun behind => some ?_
      rw [List.drop_of_length_le (Nat.le_of_lt behind), List.prefix_nil] at goesOn
      exact String.toList_eq_nil_iff.1 goesOn
  | token located tokenOf described starts =>
      rcases tokenOf.startsIn.scanned with ⟨passed, rest, _, split, place, -⟩
      rw [starts, place, split, List.length_append]
      omega
  | condition parsed table stands bracketed located tokenOf described starts =>
      rcases tokenOf.startsIn.scanned with ⟨passed, rest, _, split, place, -⟩
      have within := (bracketed.prefix_drop stands).length_le
      rw [split, List.length_append, List.length_append, List.length_drop] at within
      rw [starts, place]
      simp only [List.length_singleton] at within
      omega

/-- Where the error is a syntax fault, the statement shows it at its position. -/
def ShowsFault (sql : String) (error : QueryError) : Prop :=
  ∀ fault fragment position, error = .locatedAt fault fragment position →
    ShownAt sql fragment position

section

variable {sql : String} {error : QueryError}

theorem showsFault_of_quotes (quotes : Sql.Quotes sql.toList error) : ShowsFault sql error := by
  rcases quotes with ⟨_, _, _, rfl, some, goesOn⟩
  rintro _ _ _ ⟨⟩
  exact .characters some goesOn

theorem showsFault_of_shownIn (shown : Sql.ShownIn sql.toList sql 0 error) :
    ShowsFault sql error := by
  rcases shown with quotes | ⟨_, located, tokenOf, rfl⟩
  · exact showsFault_of_quotes quotes
  · rintro _ _ _ ⟨⟩
    exact .token located tokenOf rfl rfl

/-- What a query is refused for once its texts are read is no syntax fault. -/
theorem yields_of_spares {α : Type} {step : QueryResult α}
    (spares : Spares QueryError.Foreign step) :
    Yields (ShowsFault sql) (fun _ => True) step := by
  cases step with
  | ok value => trivial
  | error error =>
      rintro _ _ _ rfl
      exact absurd trivial (spares _ rfl)

end

namespace Query

variable {sql : String} {root : Schema} {dest : Option RecordType}

theorem yields_bindRoute {select : Select} (parsed : Sql.parseSelect sql = .ok select)
    (named : select.Named (·.TokenOf sql 0)) :
    Yields (ShowsFault sql) (fun _ => True) (bindRoute sql select root) := by
  unfold bindRoute
  split
  · rintro _ _ _ ⟨⟩
  · rename_i selector table
    have stands := selector_prefix_drop named table
    refine ((Path.yields_scan stands).mono ?_ fun _ _ done => done).bind
      fun path _ _ => yields_of_spares (spares_bindPath root path select.filter)
    rintro _ (quotes | ⟨_, text, place, located, bracketed, tokenOf, rfl⟩)
    · exact showsFault_of_quotes quotes
    · rintro _ _ _ ⟨⟩
      exact .condition parsed table stands bracketed located tokenOf rfl rfl

/-- A query that is refused for a syntax fault shows it at its position in the statement, unless the
statement registers a type. -/
theorem shownAt_of_compile {fault : SyntaxFault} {fragment : String} {position : Nat}
    (select : ∀ rest, (Sql.Cursor.start sql 0).next ≠ .ok (.keyword .register, rest))
    (failed : compile sql root dest = .error (.parse (.located fault fragment position))) :
    position ≤ sql.length ∧ ShownAt sql fragment position := by
  have shows : Yields (ShowsFault sql) (fun _ => True) (compile sql root dest) := by
    refine ((Sql.yields_parseSelect select).mono (fun _ => showsFault_of_shownIn)
      fun _ _ named => named).bind fun select parsed named => ?_
    refine (yields_bindRoute parsed named).bind fun ⟨route, binding⟩ _ _ => ?_
    exact (yields_of_spares (Projection.spares_foreign _ _)).bind fun _ _ _ => trivial
  have shown := shows.of_error failed fault fragment position rfl
  exact ⟨shown.position_le, shown⟩

/-- The condition of this statement ends where an operand should stand, which is told at the
position of the bracket behind it. -/
theorem shownAt_of_compile_bracket :
    compile "SELECT * FROM \x60A[x = ]\x60" (.scalar .int) none =
        .error (.parse (.located .notAnExpression "end of input" 21)) ∧
      21 ≤ "SELECT * FROM \x60A[x = ]\x60".length ∧
      ShownAt "SELECT * FROM \x60A[x = ]\x60" "end of input" 21 := by
  have first : (Sql.Cursor.start "SELECT * FROM \x60A[x = ]\x60" 0).next.toOption.map (·.1) =
      some (.keyword .select) := by decide +kernel
  have refused : (match compile "SELECT * FROM \x60A[x = ]\x60" (.scalar .int) none with
      | .error (.parse fault) => some fault
      | _ => none) = some (.located .notAnExpression "end of input" 21) := by decide +kernel
  have failed : compile "SELECT * FROM \x60A[x = ]\x60" (.scalar .int) none =
      .error (.parse (.located .notAnExpression "end of input" 21)) := by
    split at refused
    · rename_i failed
      cases refused
      exact failed
    · cases refused
  refine ⟨failed, shownAt_of_compile (fun rest register => ?_) failed⟩
  rw [register] at first
  cases first

end Query

end RecordQuery
