import RecordQuery.Proofs.Path.Delimited
import RecordQuery.Proofs.Sql.Faults

/-!
# Faults of selectors

A selector is refused for the characters at one of its positions, or for a token of the condition in
one of its brackets. Both are shown at their positions in the statement that the selector stands in.
-/

namespace RecordQuery

open Outcome
open Sql (Cursor Located Quotes)

namespace Sql.Cursor.In

variable {here : Cursor} {text : List Char} {offset : Nat}

theorem skipBlanks (inside : here.In text offset) : (Path.skipBlanks here).In text offset :=
  inside.advance_dropWhile _

theorem skipAccents (inside : here.In text offset) : (Path.skipAccents here).In text offset :=
  inside.advance_dropWhile _

theorem advance_cons (inside : here.In text offset) {c : Char} {rest : List Char}
    (line : here.rest = c :: rest) : (here.advance rest).In text offset := by
  have split : here.rest = [c] ++ rest := line
  exact inside.advance split

end Sql.Cursor.In

namespace Path

/-! ## Conditions in brackets -/

/-- A block that is read is the text in front of the bracket that closes it. -/
theorem append_of_readBlock {nested : Nat} {quote : Option Char} {inner text after : List Char}
    (found : readBlock nested quote inner = some (text, after)) : inner = text ++ ']' :: after := by
  have bracket {c : Char} {rest : Bool} (closed : (c == ']' && rest) = true) : c = ']' :=
    beq_iff_eq.1 (Bool.and_eq_true_iff.1 closed).1
  fun_induction readBlock nested quote inner generalizing text after with
  | case1 => cases found
  | case2 nested quote c closed =>
      cases found
      rw [Bool.and_assoc] at closed
      exact congrArg ([·]) (bracket closed)
  | case3 => cases found
  | case5 nested quote c next rest plain closed =>
      cases found
      rw [Bool.and_assoc] at closed
      exact congrArg (· :: next :: rest) (bracket closed)
  | case4 | case6 =>
      rename_i ih
      rcases Option.map_eq_some_iff.1 found with ⟨⟨front, last⟩, further, same⟩
      cases same
      rw [ih further]
      rfl

/-- The text stands between a bracket of a selector and the bracket that matches it, and `place` is
the position of its first character. -/
structure Bracketed (selector : List Char) (offset : Nat) (text : List Char) (place : Nat) :
    Prop where
  enclosed : Enclosed text
  stands : ∃ front after, selector = front ++ '[' :: (text ++ ']' :: after) ∧
    place = offset + front.length + 1

/-- A condition in brackets stands in the statement where its selector does. -/
theorem Bracketed.prefix_drop {selector text statement : List Char} {offset place : Nat}
    (bracketed : Bracketed selector offset text place)
    (stands : selector <+: statement.drop offset) :
    text ++ [']'] <+: statement.drop place := by
  rcases bracketed.stands with ⟨front, after, rfl, rfl⟩
  rcases stands with ⟨more, split⟩
  refine ⟨after ++ more, ?_⟩
  rw [Nat.add_assoc, ← List.drop_drop, ← split]
  simp

theorem bracketed_of_readBlock {here : Cursor} {selector inner text after : List Char}
    {offset : Nat} (inside : here.In selector offset) (opening : here.rest = '[' :: inner)
    (block : readBlock 0 none inner = some (text, after)) :
    Bracketed selector offset text (here.position + 1) := by
  have split := append_of_readBlock block
  rcases inside with ⟨passed, whole, place⟩
  refine ⟨readBlock_eq_some_iff.1 (split ▸ block), passed, after, ?_, by rw [place]⟩
  rw [whole, opening, split]

/-! ## Selectors -/

/-- The error shows a syntax fault of a selector in a statement: by characters of the statement, or
by a token of a condition in brackets. -/
def ShownIn (statement : List Char) (selector : String) (offset : Nat) (error : QueryError) :
    Prop :=
  Quotes statement error ∨
    ∃ (fault : SyntaxFault) (text : String) (place : Nat) (located : Located),
      Bracketed selector.toList offset text.toList place ∧ located.TokenOf text place ∧
        error = .locatedAt fault located.token.describe located.position

variable {selector name : String} {offset : Nat} {statement : List Char}
  {filter : Option Filter} {here start : Cursor}

/-- Before the end of a selector, a fault is shown by the characters there. -/
theorem shownIn_faultAt (fault : SyntaxFault) (inside : here.In selector.toList offset)
    (stands : selector.toList <+: statement.drop offset) (more : here.rest ≠ []) :
    ShownIn statement selector offset (faultAt selector fault here) := by
  have shown : ¬(String.ofList (here.rest.take 16)).isEmpty = true := by
    simpa using more
  rw [faultAt, if_neg shown]
  exact .inl (Sql.quotes_take fault (by decide) more (inside.goesOn stands))

theorem yields_scanFilter (inside : here.In selector.toList offset)
    (stands : selector.toList <+: statement.drop offset) :
    Yields (ShownIn statement selector offset)
      (fun found => found.2.1.In selector.toList offset) (scanFilter selector name here) := by
  rcases here with ⟨_ | ⟨c, inner⟩, position⟩
  · exact inside
  · by_cases bracket : c = '['
    · subst bracket
      simp only [scanFilter]
      split
      · exact shownIn_faultAt _ inside stands (List.cons_ne_nil _ _)
      · rename_i text after block
        have bracketed := bracketed_of_readBlock inside rfl block
        have taken : '[' :: inner = ('[' :: text ++ [']']) ++ after := by
          rw [append_of_readBlock block]
          simp
        rw [← @String.toList_ofList text] at bracketed
        have placed := (List.prefix_append ..).trans (bracketed.prefix_drop stands)
        refine ((Sql.yields_parseCriteria placed).mono ?_ fun _ _ done => done).bind
          fun expr _ _ => inside.advance taken
        rintro error (quotes | ⟨fault, located, tokenOf, rfl⟩)
        · exact .inl quotes
        · exact .inr ⟨fault, _, _, located, bracketed, tokenOf, rfl⟩
    · rw [scanFilter_none bracket]
      exact inside

/-- Every step is read from where the one before it ends. -/
theorem yields_scanSteps (inside : start.In selector.toList offset)
    (stands : selector.toList <+: statement.drop offset) :
    Yields (ShownIn statement selector offset) (fun found => found.2.In selector.toList offset)
      (scanSteps selector filter start) := by
  fun_induction scanSteps selector filter start with
  | case1 | case2 => exact inside.skipBlanks
  | case3 filter start here c tail _ line word =>
      rename_i ih
      have behind := (inside.skipBlanks.advance_dropWhile Text.isWordChar).skipBlanks
      refine (yields_scanFilter behind stands).bind fun found _ scanned => ?_
      rcases found with ⟨next, filtered, within⟩
      have after := scanned.skipBlanks
      dsimp only
      split
      · rename_i rest slash
        have onward := after.advance_cons slash
        split
        · rename_i twice
          refine shownIn_faultAt _ onward.skipBlanks stands fun done => ?_
          rw [done] at twice
          cases twice
        · exact (ih next filtered within rest slash onward).bind fun _ _ last => last
      · exact after
      · exact after
      · rename_i more _
        exact shownIn_faultAt _ after stands more
  | case4 filter start here c tail _ line =>
      exact shownIn_faultAt _ inside.skipBlanks stands (by simp [line])

/-- A selector is refused for a fault of its own text. -/
theorem yields_scan (stands : selector.toList <+: statement.drop offset) :
    Yields (ShownIn statement selector offset) (fun _ => True) (scan selector offset) := by
  have start := (Cursor.In.start selector offset).skipBlanks.skipAccents.skipBlanks
  unfold scan
  dsimp only
  refine Yields.bind (yields_scanSteps ?_ stands) fun found _ inside => ?_
  · split
    · rename_i slash
      exact start.advance_cons slash
    · exact start
  · split
    · trivial
    · rename_i more
      exact shownIn_faultAt _ inside.skipAccents.skipBlanks stands (by simpa using more)

end Path

end RecordQuery
