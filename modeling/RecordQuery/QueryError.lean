import RecordQuery.Schema
import RecordQuery.Sql.Token
import RecordQuery.Sql.Expr
import RecordQuery.Value.Text

/-!
# What can go wrong with a query

Errors are causes. Each stage of a query has its own type of causes, and one function for each
type gives their wording.
-/

namespace RecordQuery

open Sql (Token Expr)

/-- A fault of SQL or selector text at one place. -/
inductive SyntaxFault where
  | invalidInteger
  | unterminatedString
  | unterminatedIdentifier
  | unexpectedCharacter
  | expectedToken (token : Token)
  | expectedIdentifier
  | expectedTypeName
  | missingDefinition
  | notAStatement
  | trailingInput
  | expectedLimit
  | expectedNumber
  | notAnExpression
  | expectedStepName
  | unmatchedBracket
  | unexpectedInput
  deriving DecidableEq

def SyntaxFault.message : SyntaxFault → String
  | .invalidInteger => "Invalid integer number"
  | .unterminatedString => "Unterminated string"
  | .unterminatedIdentifier => "Unterminated quoted identifier"
  | .unexpectedCharacter => "Unexpected character"
  | .expectedToken token => "Expected " ++ token.describe
  | .expectedIdentifier => "Expected identifier"
  | .expectedTypeName => "Expected type name"
  | .missingDefinition => "Missing type definition"
  | .notAStatement => "Unexpected token at start of statement"
  | .trailingInput => "Unexpected trailing input"
  | .expectedLimit => "Expected non-negative integer after LIMIT"
  | .expectedNumber => "Expected number after '-'"
  | .notAnExpression => "Unexpected token in expression"
  | .expectedStepName => "expected identifier"
  | .unmatchedBracket => "unmatched '['"
  | .unexpectedInput => "unexpected input"

/-- Why a text is no query. -/
inductive ParseFault where
  /-- A fault with the text it is shown by and its position in the statement. -/
  | located (fault : SyntaxFault) (fragment : String) (position : Nat)
  | notSelect
  | nestedSelect
  deriving DecidableEq

def ParseFault.message : ParseFault → String
  | .located fault fragment position =>
      fault.message ++ " near '" ++ fragment ++ "' at position " ++ toString position
  | .notSelect => "unsupported statement: expected SELECT"
  | .nestedSelect => "sub-select is not supported as a selector"

/-- Why a name does not lead to a field. -/
inductive ResolutionFault where
  | noField (name record : String)
  | noSourceField (name record : String)
  | noDestField (name record : String)
  | noColumn (name record : String)
  | unknownQualifier (table column expected : String)
  | noDescent (label : String) (schema : Schema) (step : String)

def ResolutionFault.message : ResolutionFault → String
  | .noField name record => "failed to lookup field: '" ++ name ++ "' on " ++ record
  | .noSourceField name record => "failed to lookup source field: '" ++ name ++ "' at " ++ record
  | .noDestField name record => "failed to lookup dest field: '" ++ name ++ "' at " ++ record
  | .noColumn name record => "unable to match column: " ++ name ++ " in type: " ++ record
  | .unknownQualifier table column expected =>
      "unknown qualifier '" ++ table ++ "' in '" ++ table ++ "." ++ column ++ "', expected '" ++
        expected ++ "'"
  | .noDescent label schema step =>
      "unsupported shape for further descent: '" ++ label ++ "' of type " ++ schema.text ++
        " has no field '" ++ step ++ "'"

/-- Why a query cannot be bound to its schemas or arguments. -/
inductive CompileFault where
  | fieldNotBoolean (field : String) (schema : Schema)
  | notBoolean (expr : Expr)
  | notField (expr : Expr)
  | unsupportedOperand (expr : Expr) (field : String)
  | unsupportedMembership (schema : Schema) (field : String)
  | nullInList (field : String)
  | unsupportedItem (expr : Expr)
  | notComparable (field : String) (schema : Schema)
  | literalMismatch (field : String) (schema : Schema) (literal : Value)
  | fieldMismatch (left : String) (leftSchema : Schema) (right : String) (rightSchema : Schema)
  | noFieldOperand (left right : Expr)
  | literalsMismatch (left right : Value)
  | argumentCount (expected found : Nat)
  | invalidArgument (field : String) (value : Value) (kind : ScalarKind)
  | criteriaOnScalar (label : String) (schema : Schema)
  | whereOnScalar (schema : Schema)
  | starAmongColumns
  | columnsOfScalar (schema : Schema)
  | duplicateColumn (name : String)
  | scalarIntoRecord (schema : Schema) (record : String)
  | unsupportedFunction (name : String)
  | aggregateArity (count : Nat)
  | aggregateArgument (expr : Expr)
  | unsupportedColumn (expr : Expr)
  | aggregateIntoScalar (schema : Schema)
  | noConversion (source dest : Schema)
  | destinationNotRecord (schema : Schema)

def CompileFault.message : CompileFault → String
  | .fieldNotBoolean field schema =>
      "expected boolean expression, found field '" ++ field ++ "' of type " ++ schema.text
  | .notBoolean expr => "expected boolean expression, found " ++ expr.outline
  | .notField expr => "expected field reference, found " ++ expr.outline
  | .unsupportedOperand expr field =>
      "unsupported operand " ++ expr.outline ++ " for field '" ++ field ++ "'"
  | .unsupportedMembership schema field =>
      "unsupported type: " ++ schema.text ++ " for IN operator on '" ++ field ++ "'"
  | .nullInList field => "NULL is not allowed in IN list of '" ++ field ++ "'"
  | .unsupportedItem expr => "unsupported IN list item " ++ expr.outline
  | .notComparable field schema =>
      "unsupported comparison on field '" ++ field ++ "' of type " ++ schema.text
  | .literalMismatch field schema literal =>
      "cannot compare field '" ++ field ++ "' of type " ++ schema.text ++ " with " ++ literal.text
  | .fieldMismatch left leftSchema right rightSchema =>
      "cannot compare field '" ++ left ++ "' of type " ++ leftSchema.text ++ " with field '" ++
        right ++ "' of type " ++ rightSchema.text
  | .noFieldOperand left right =>
      "comparison needs a field operand: " ++ left.outline ++ " and " ++ right.outline
  | .literalsMismatch left right => "cannot compare " ++ left.text ++ " with " ++ right.text
  | .argumentCount expected found =>
      "expected " ++ toString expected ++ " argument(s), got " ++ toString found
  | .invalidArgument field value kind =>
      "invalid " ++ field ++ " value " ++ value.text ++ ": expected " ++ kind.name ++ ", found " ++
        value.kindName
  | .criteriaOnScalar label schema =>
      "criteria on '" ++ label ++ "' requires a record, found " ++ schema.text
  | .whereOnScalar schema => "WHERE requires a record leaf, found " ++ schema.text
  | .starAmongColumns => "'*' cannot be combined with other columns"
  | .columnsOfScalar schema => "column list requires a record source, found " ++ schema.text
  | .duplicateColumn name => "duplicate column '" ++ name ++ "'"
  | .scalarIntoRecord schema record => "cannot map " ++ schema.text ++ " into record " ++ record
  | .unsupportedFunction name => "unsupported function: " ++ name
  | .aggregateArity count =>
      "invalid ARRAY_AGG args count, " ++ toString count ++ ", expected 1"
  | .aggregateArgument expr => "unsupported ARRAY_AGG argument " ++ expr.outline
  | .unsupportedColumn expr => "unsupported column expression " ++ expr.outline
  | .aggregateIntoScalar schema =>
      "ARRAY_AGG destination must be a collection, found " ++ schema.text
  | .noConversion source dest =>
      "unsupported field translation " ++ source.text ++ " -> " ++ dest.text
  | .destinationNotRecord schema => "destination must be a record, found " ++ schema.text

/-- Why data cannot be walked, tested or copied at a field. -/
inductive ExecutionFault where
  | notRecord (found : Value)
  | notArray (found : Value)
  | incomparable (left right : Value) (kind : ScalarKind)
  | notExpanded
  | wrongKind (expected : ScalarKind) (found : Value)
  | undecodable (reason : String)
  /-- A fault that a visitor of the caller reports. -/
  | reported (message : String)

def ExecutionFault.message : ExecutionFault → String
  | .notRecord found => "expected record, found " ++ found.kindName
  | .notArray found => "expected array, found " ++ found.kindName
  | .incomparable left right kind =>
      "cannot compare " ++ left.kindName ++ " with " ++ right.kindName ++ " as " ++ kind.name
  | .notExpanded => "IN list arguments were not expanded"
  | .wrongKind expected found => "expected " ++ expected.name ++ ", found " ++ found.kindName
  | .undecodable reason => "failed to decode row: " ++ reason
  | .reported message => message

/-- Why a query has no answer. -/
inductive QueryError where
  | parse (fault : ParseFault)
  | resolution (fault : ResolutionFault)
  | compile (fault : CompileFault)
  | execution (field : String) (fault : ExecutionFault)

namespace QueryError

/-- A syntax fault at a position of the statement, shown by a fragment of the text there. -/
def locatedAt (fault : SyntaxFault) (fragment : String) (position : Nat) : QueryError :=
  .parse (.located fault fragment position)

def message : QueryError → String
  | .parse fault => "Parse error: " ++ fault.message
  | .resolution fault => "Schema resolution error: " ++ fault.message
  | .compile fault => "Compile error: " ++ fault.message
  | .execution field fault => "Execution error at '" ++ field ++ "': " ++ fault.message

end QueryError

/-- The outcome of a step of a query. -/
abbrev QueryResult (α : Type) := Except QueryError α

end RecordQuery
