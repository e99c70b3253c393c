import RecordQuery.Schema
import RecordQuery.Sql.Expr

/-!
# Values of literals

An expression that names no field and no argument stands for one value of data.
-/

namespace RecordQuery

open Sql (Expr)

/-- The value of a literal. -/
def Sql.Expr.literal? : Expr → Option Value
  | .integer n => some (.ofInt64 n)
  | .float x => some (.ofExtDouble x)
  | .string s => some (.string s)
  | .boolean b => some (.bool b)
  | .null => some .null
  | _ => none

/-- The kind of a value that is a scalar; a text is a string even if it names a moment. -/
def Value.kind? : Value → Option ScalarKind
  | .number (.float _) => some .float
  | .number (.int _) => some .int
  | .string _ => some .string
  | .bool _ => some .bool
  | _ => none

end RecordQuery
