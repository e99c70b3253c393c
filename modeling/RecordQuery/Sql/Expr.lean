import RecordQuery.Number.Layout
import RecordQuery.Text.Quoted

/-!
# Expressions

The expressions of column lists and criteria, and the outline in which messages show them.
-/

namespace RecordQuery.Sql

/-- A comparison of two operands. -/
inductive CompareOp where
  | eq
  | ne
  | lt
  | le
  | gt
  | ge
  deriving DecidableEq, Repr

namespace CompareOp

/-- The comparison that holds for swapped operands: `a < b` exactly when `b > a`. -/
def flip : CompareOp → CompareOp
  | .eq => .eq
  | .ne => .ne
  | .lt => .gt
  | .le => .ge
  | .gt => .lt
  | .ge => .le

/-- The comparison that holds exactly when this one fails. -/
def complement : CompareOp → CompareOp
  | .eq => .ne
  | .ne => .eq
  | .lt => .ge
  | .le => .gt
  | .gt => .le
  | .ge => .lt

/-- Whether operands in a given order satisfy the comparison. -/
def holds : CompareOp → Ordering → Bool
  | .eq, order => order == .eq
  | .ne, order => order != .eq
  | .lt, order => order == .lt
  | .le, order => order != .gt
  | .gt, order => order == .gt
  | .ge, order => order != .lt

theorem flip_flip (op : CompareOp) : op.flip.flip = op := by
  cases op <;> rfl

theorem holds_flip (op : CompareOp) (order : Ordering) :
    op.flip.holds order.swap = op.holds order := by
  cases op <;> cases order <;> rfl

theorem holds_complement (op : CompareOp) (order : Ordering) :
    op.complement.holds order = !op.holds order := by
  cases op <;> cases order <;> rfl

end CompareOp

/-- How two operands are joined. -/
inductive BinaryOp where
  | compare (op : CompareOp)
  | and
  | or
  deriving DecidableEq, Repr

/-- An expression of SQL text. -/
inductive Expr where
  | column (name : String)
  | qualified (table column : String)
  | integer (value : Int64)
  | float (value : ExtDouble)
  | string (value : String)
  | boolean (value : Bool)
  | null
  /-- A question mark; indices count them in the order of the text. -/
  | placeholder (index : Nat)
  | binary (op : BinaryOp) (left right : Expr)
  | not (operand : Expr)
  | isNull (operand : Expr)
  | isNotNull (operand : Expr)
  | inList (operand : Expr) (items : List Expr) (negated : Bool)
  /-- A call; a target after `AS` is a last argument of its own, a column. -/
  | call (name : String) (args : List Expr)

instance : Inhabited Expr := ⟨.null⟩

/-! ## Outlines -/

def CompareOp.outline : CompareOp → String
  | .eq => "Eq"
  | .ne => "NotEq"
  | .lt => "Lt"
  | .le => "LtEq"
  | .gt => "Gt"
  | .ge => "GtEq"

def BinaryOp.outline : BinaryOp → String
  | .compare op => op.outline
  | .and => "And"
  | .or => "Or"

/-- A name with one part in parentheses. -/
def outlineOne (name part : String) : String := name ++ "(" ++ part ++ ")"

/-- A name with named parts in braces. -/
def outlineParts (name : String) (parts : List (String × String)) : String :=
  name ++ " \x7b " ++ ", ".intercalate (parts.map fun part => part.1 ++ ": " ++ part.2) ++ " \x7d"

/-- Parts in brackets. -/
def outlineList (parts : List String) : String := "[" ++ ", ".intercalate parts ++ "]"

mutual
/-- The structure of an expression, as error messages show it. -/
def Expr.outline : Expr → String
  | .column name => outlineOne "Column" (Text.quoted name)
  | .qualified table column =>
      outlineParts "QualifiedColumn"
        [("table", Text.quoted table), ("column", Text.quoted column)]
  | .integer value => outlineOne "Integer" (toString value.toInt)
  | .float value => outlineOne "Float" (Layout.outline.writeExt value)
  | .string value => outlineOne "String" (Text.quoted value)
  | .boolean value => outlineOne "Boolean" (if value then "true" else "false")
  | .null => "Null"
  | .placeholder index => outlineOne "Placeholder" (toString index)
  | .binary op left right =>
      outlineParts "BinaryOp"
        [("left", left.outline), ("op", op.outline), ("right", right.outline)]
  | .not operand => outlineOne "Not" operand.outline
  | .isNull operand => outlineOne "IsNull" operand.outline
  | .isNotNull operand => outlineOne "IsNotNull" operand.outline
  | .inList operand items negated =>
      outlineParts "InList"
        [("expr", operand.outline), ("list", outlineList (outlines items)),
          ("negated", if negated then "true" else "false")]
  | .call name args =>
      outlineParts "Function"
        [("name", Text.quoted name), ("args", outlineList (outlines args))]

def outlines : List Expr → List String
  | [] => []
  | expr :: rest => expr.outline :: outlines rest
end

end RecordQuery.Sql
