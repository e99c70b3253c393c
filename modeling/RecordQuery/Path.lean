import RecordQuery.Sql.Expr

/-!
# Paths through nested records

A path names the fields to descend into, from the root value to its leaves. Wherever it arrives at
records, a filter may drop some of them before it goes on.
-/

namespace RecordQuery

/-- A condition on the records at one point of a path. Its fields may be qualified by the holder,
the name of the field that led there. -/
structure Filter where
  text : String
  expr : Sql.Expr
  holder : String

/-- A chain of descents. The filter of a point applies to the records found there. -/
inductive Path where
  | leaf (filter : Option Filter)
  | step (filter : Option Filter) (name : String) (next : Path)

namespace Path

/-- The filter at the first point. -/
def filter : Path → Option Filter
  | .leaf filter | .step filter _ _ => filter

/-- The names of the fields to descend into. -/
def names : Path → List String
  | .leaf _ => []
  | .step _ name next => name :: next.names

/-- The name of the field that leads to the leaves. -/
def lastName? (path : Path) : Option String := path.names.getLast?

end Path

end RecordQuery
