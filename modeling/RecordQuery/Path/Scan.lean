import RecordQuery.Path
import RecordQuery.Sql.Grammar

/-!
# From selector text to paths

A selector is a chain of names separated by slashes, each with an optional filter in brackets. The
filter of a name applies to the records that its field holds, so it is kept at the point behind
the descent. Grave accents and blanks may surround the selector.
-/

namespace RecordQuery.Path

open Sql (Cursor)

/-- The text behind an opening bracket up to the closing bracket that matches it, and what follows.
Brackets inside quotes do not count, and a backslash hides the character behind it. -/
def readBlock (nested : Nat) (quote : Option Char) : List Char → Option (List Char × List Char)
  | [] => none
  | [c] => if c == ']' && quote.isNone && nested == 0 then some ([], []) else none
  | c :: next :: rest =>
      if c == '\\' then
        (readBlock nested quote rest).map fun (text, after) => (c :: next :: text, after)
      else if c == ']' && quote.isNone && nested == 0 then some ([], next :: rest)
      else
        let quote' :=
          if quote == some c then none
          else if quote.isNone && (c == '\'' || c == '"') then some c
          else quote
        let nested' :=
          if quote.isNone && c == '[' then nested + 1
          else if quote.isNone && c == ']' then nested - 1
          else nested
        (readBlock nested' quote' (next :: rest)).map fun (text, after) => (c :: text, after)

theorem length_lt_of_readBlock {nested : Nat} {quote : Option Char} {input text after : List Char}
    (found : readBlock nested quote input = some (text, after)) : after.length < input.length := by
  fun_induction readBlock nested quote input generalizing text after with
  | case1 => cases found
  | case2 => cases found; simp
  | case3 => cases found
  | case5 => cases found; simp
  | case4 | case6 =>
      rename_i ih
      obtain ⟨pair, inner, same⟩ := Option.map_eq_some_iff.1 found
      have := ih inner
      simp only [Prod.mk.injEq] at same
      simp only [List.length_cons, ← same.2] at *
      omega

/-- A fault shown by the next sixteen characters, or by the whole selector at its end. -/
def faultAt (selector : String) (fault : SyntaxFault) (here : Cursor) : QueryError :=
  let shown := String.ofList (here.rest.take 16)
  .locatedAt fault (if shown.isEmpty then selector else shown) here.position

def skipBlanks (here : Cursor) : Cursor := here.advance (here.rest.dropWhile Text.isBlank)

theorem length_skipBlanks_le (here : Cursor) :
    (skipBlanks here).rest.length ≤ here.rest.length :=
  Text.length_dropWhile_le _ _

def skipAccents (here : Cursor) : Cursor := here.advance (here.rest.dropWhile (· == '\x60'))

/-- The filter in brackets behind a name, where there is one. -/
def scanFilter (selector name : String) (here : Cursor) :
    QueryResult (Option Filter × { after : Cursor // after.rest.length ≤ here.rest.length }) :=
  match opening : here.rest with
  | '[' :: inner =>
      match block : readBlock 0 none inner with
      | none => .error (faultAt selector .unmatchedBracket here)
      | some (text, after) => do
          let text := String.ofList text
          let expr ← Sql.parseCriteria text (here.position + 1)
          return (some { text, expr, holder := name }, ⟨here.advance after, by
            have := length_lt_of_readBlock block
            simp only [Cursor.advance, List.length_cons]
            omega⟩)
  | _ => .ok (none, ⟨here, by simp [opening]⟩)

/-- The rest of a path from a point with a given filter on. -/
def scanSteps (selector : String) (filter : Option Filter) (start : Cursor) :
    QueryResult (Path × Cursor) := do
  let here := skipBlanks start
  match line : here.rest with
  | [] => return (.leaf filter, here)
  | '\x60' :: _ => return (.leaf filter, here)
  | first :: tail =>
      if word : Text.isWordChar first then
        let name := String.ofList (here.rest.takeWhile Text.isWordChar)
        let behind := skipBlanks (here.advance (here.rest.dropWhile Text.isWordChar))
        let (next, ⟨filtered, within⟩) ← scanFilter selector name behind
        let after := skipBlanks filtered
        match slash : after.rest with
        | '/' :: rest =>
            let onward := skipBlanks (after.advance rest)
            if onward.rest.head? == some '/' then
              throw (faultAt selector .expectedStepName onward)
            else
              have : rest.length < start.rest.length := by
                have taken : behind.rest.length ≤ tail.length := by
                  refine Nat.le_trans (length_skipBlanks_le _) ?_
                  simp only [Cursor.advance, line, List.dropWhile_cons_of_pos word]
                  exact Text.length_dropWhile_le _ _
                have first := length_skipBlanks_le start
                have second := length_skipBlanks_le filtered
                simp only [here, after] at line slash
                rw [line] at first
                rw [slash] at second
                simp only [List.length_cons] at first second
                omega
              let (path, last) ← scanSteps selector next (after.advance rest)
              return (.step filter name path, last)
        | [] => return (.step filter name (.leaf next), after)
        | '\x60' :: _ => return (.step filter name (.leaf next), after)
        | _ => throw (faultAt selector .unexpectedInput after)
      else throw (faultAt selector .expectedStepName here)
termination_by start.rest.length

/-- The path that a selector names; its first character has the position `offset`. -/
def scan (selector : String) (offset : Nat) : QueryResult Path := do
  let here := skipBlanks (skipAccents (skipBlanks (Cursor.start selector offset)))
  let start := match here.rest with
    | '/' :: rest => here.advance rest
    | _ => here
  let (path, last) ← scanSteps selector none start
  let last := skipBlanks (skipAccents last)
  if last.rest.isEmpty then return path
  else throw (faultAt selector .unexpectedInput last)

end RecordQuery.Path
