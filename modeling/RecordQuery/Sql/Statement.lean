import RecordQuery.Sql.Expr

/-!
# Statements

A statement selects from a table or registers a record type.
-/

namespace RecordQuery.Sql

/-- One entry of a column list. -/
inductive Column where
  | star
  | field (name : String) (label : Option String)
  | call (name : String) (args : List Expr) (label : Option String)
  | expression (expr : Expr) (label : Option String)

namespace Column

/-- The name given to a column with or without `AS`. -/
def label : Column → Option String
  | .star => none
  | .field _ label | .call _ _ label | .expression _ label => label

def isStar : Column → Bool
  | .star => true
  | _ => false

end Column

/-- What a SELECT reads from: a table or selector, or another SELECT. -/
inductive Source (σ : Type) where
  | table (name : String)
  | nested (select : σ)

/-- A SELECT. The offset is the position of its source in the statement. -/
structure Select where
  columns : List Column
  source : Source Select
  sourceOffset : Nat
  filter : Option Expr
  limit : Option Nat

/-- A REGISTER TYPE; the definition is kept as text. -/
structure Registration where
  name : String
  everywhere : Bool
  definition : String
  deriving DecidableEq

inductive Statement where
  | select (select : Select)
  | register (registration : Registration)

/-- The part of a column name behind its last dot. -/
def unqualified (name : String) : String :=
  String.ofList (name.toList.reverse.takeWhile (· != '.')).reverse

end RecordQuery.Sql
