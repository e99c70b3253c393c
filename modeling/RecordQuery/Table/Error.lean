import RecordQuery.QueryError
import RecordQuery.Gzip
import RecordQuery.Url.Host

/-!
# What can go wrong with tables

Tables are files in a directory, so besides the errors of queries there are those of locations,
statements, arguments, files and their lines. Every error is a cause with one wording.
-/

namespace RecordQuery

open Sql (Expr)

/-- Why a text locates no directory of tables. -/
inductive LocationFault where
  | empty
  | badUrl (text : String) (fault : UrlFault)
  | unsupportedOptions (names : List String)
  | unsupportedScheme (scheme : String)
  | notLocal (text : String)

def LocationFault.message : LocationFault → String
  | .empty => "dsn was empty"
  | .badUrl text fault => text ++ ": " ++ fault.message
  | .unsupportedOptions names => "unsupported options: [" ++ ", ".intercalate names ++ "]"
  | .unsupportedScheme scheme => "unsupported scheme: " ++ scheme
  | .notLocal text => text ++ ": not a local path"

/-- Why a statement or the definition of a record type is refused. -/
inductive StatementFault where
  | unsupportedKind (sql : String)
  | selectIsQueried
  | registrationIsExecuted
  | unsupportedSource (sql : String)
  | unlabelled (expr : Expr)
  | unsupportedColumn (expr : Expr)
  | nullColumn (name : String)
  | unsupportedFunction (name : String)
  | castArguments (label : String) (args : List Expr)
  | castType (name : String)
  | malformedDefinition (type text : String)
  | malformedField (type text : String)
  | unsupportedFieldType (type text : String)
  | noFields (type : String)

def StatementFault.message : StatementFault → String
  | .unsupportedKind sql => "unsupported SQL kind: " ++ sql
  | .selectIsQueried => "SELECT must be run with query"
  | .registrationIsExecuted => "REGISTER TYPE must be run with exec"
  | .unsupportedSource sql => "unsupported FROM in: " ++ sql
  | .unlabelled expr => "column " ++ expr.outline ++ " requires an alias"
  | .unsupportedColumn expr => "unsupported column expression: " ++ expr.outline
  | .nullColumn name => "column " ++ name ++ " cannot be NULL"
  | .unsupportedFunction name => "unsupported function: " ++ name
  | .castArguments label args =>
      label ++ " unsupported cast arguments: " ++ Sql.outlineList (Sql.outlines args)
  | .castType name => "unsupported cast type: " ++ name
  | .malformedDefinition type text => "invalid type definition for " ++ type ++ ": " ++ text
  | .malformedField type text => "invalid field definition in " ++ type ++ ": '" ++ text ++ "'"
  | .unsupportedFieldType type text => "unsupported field type in " ++ type ++ ": " ++ text
  | .noFields type => "type " ++ type ++ " has no fields"

/-- Why an argument of a statement is refused. -/
inductive ArgumentFault where
  | notRecord (type : String) (schema : Schema)
  | sampleNotObject (type : String)
  | emptySampleField (name : String)
  | nullSampleField (name : String)
  | missingSample (type : String)
  | missingCastArgument (label : String)
  | unsupportedCastSource (label : String) (expr : Expr)
  | uncastable (label : String) (kind : ScalarKind) (value : Value)

def ArgumentFault.message : ArgumentFault → String
  | .notRecord type schema =>
      "type " ++ type ++ " must describe a record, found " ++ schema.text
  | .sampleNotObject type => "type " ++ type ++ " sample must be an object"
  | .emptySampleField name => "cannot infer element type of empty field " ++ name
  | .nullSampleField name => "cannot infer type of null field " ++ name
  | .missingSample type => "missing type argument for " ++ type
  | .missingCastArgument label => "missing cast argument " ++ label
  | .unsupportedCastSource label expr => label ++ " unsupported cast argument: " ++ expr.outline
  | .uncastable label kind value => label ++ " invalid " ++ kind.name ++ ": " ++ value.text

/-- Why a table has no file that can be read. -/
inductive ResourceFault where
  | directory (path : String)
  | unsupportedFormat (path : String)
  | missing (path : String)
  | longLine (line : Nat) (label : String) (limit : Nat)

def ResourceFault.message : ResourceFault → String
  | .directory path => "unsupported directory: " ++ path
  | .unsupportedFormat path => "unsupported format: " ++ path
  | .missing path => "invalid source: " ++ path
  | .longLine line label limit =>
      "line " ++ toString line ++ " of " ++ label ++ " exceeds " ++ toString limit ++ " bytes"

/-- Why a file yields no more bytes. -/
inductive FileFault where
  | notFound
  | isDirectory
  | gzip (fault : Gzip.Fault)
  deriving DecidableEq

def FileFault.message : FileFault → String
  | .notFound => "No such file or directory (os error 2)"
  | .isDirectory => "Is a directory (os error 21)"
  | .gzip fault => fault.message

/-- Why a line is no record of a table. -/
inductive LineFault where
  | undecodable
  | notObject
  | wrongKind (field : String) (kind : ScalarKind) (value : Value)

def LineFault.message : LineFault → String
  | .undecodable => "malformed text"
  | .notObject => "expected object"
  | .wrongKind field kind value =>
      "field " ++ field ++ " expected " ++ kind.name ++ ", found " ++ value.text

/-- Why no record type is known for a table. -/
inductive UntypedTable where
  | star
  | column (name : String)

/-- Why an operation on tables has no answer. -/
inductive TableError where
  | query (error : QueryError)
  | file (fault : FileFault)
  | location (fault : LocationFault)
  | statement (fault : StatementFault)
  | untyped (table : String) (reason : UntypedTable)
  | resource (fault : ResourceFault)
  /-- A fault in one line of a named table. -/
  | line (table : String) (number : Nat) (fault : LineFault)
  | argument (fault : ArgumentFault)

namespace TableError

def message : TableError → String
  | .query error => error.message
  | .file fault => "IO error: " ++ fault.message
  | .location fault => "Invalid DSN: " ++ fault.message
  | .statement fault => "Unsupported statement: " ++ fault.message
  | .untyped table .star => "Type '" ++ table ++ " (cannot autodetect type for *)' not found"
  | .untyped table (.column name) =>
      "Type '" ++ table ++ " (cannot autodetect type of column " ++ name ++ ")' not found"
  | .resource fault => "Resource error: " ++ fault.message
  | .line table number fault =>
      "Decode error at line " ++ toString number ++ " of " ++ table ++ ": " ++ fault.message
  | .argument fault => "Invalid argument: " ++ fault.message

/-- The error behind an error, where there is one. -/
def cause? : TableError → Option String
  | .file fault => some fault.message
  | _ => none

end TableError

/-- The answer of an operation on tables. -/
abbrev TableResult := Except TableError

/-- An answer of a query as an answer about tables. -/
def TableResult.ofQuery {α : Type} : QueryResult α → TableResult α
  | .ok value => .ok value
  | .error error => .error (.query error)

end RecordQuery
