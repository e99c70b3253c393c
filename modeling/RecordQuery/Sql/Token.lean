import RecordQuery.Number.Layout

/-!
# Tokens of SQL text
-/

namespace RecordQuery.Sql

/-- The words with a meaning of their own, in any case of letters. -/
inductive Keyword where
  | select
  | from_
  | where_
  | limit
  | as_
  | register
  | global_
  | type_
  | and_
  | or_
  | not_
  | is_
  | null
  | in_
  | true_
  | false_
  deriving DecidableEq, Repr

namespace Keyword

/-- The word in capitals. -/
def text : Keyword → String
  | .select => "SELECT"
  | .from_ => "FROM"
  | .where_ => "WHERE"
  | .limit => "LIMIT"
  | .as_ => "AS"
  | .register => "REGISTER"
  | .global_ => "GLOBAL"
  | .type_ => "TYPE"
  | .and_ => "AND"
  | .or_ => "OR"
  | .not_ => "NOT"
  | .is_ => "IS"
  | .null => "NULL"
  | .in_ => "IN"
  | .true_ => "TRUE"
  | .false_ => "FALSE"

def all : List Keyword :=
  [.select, .from_, .where_, .limit, .as_, .register, .global_, .type_, .and_, .or_, .not_, .is_,
    .null, .in_, .true_, .false_]

/-- The keyword that a word spells when the case of ASCII letters is ignored. -/
def ofWord? (word : String) : Option Keyword :=
  all.find? fun keyword => keyword.text == word.toUpper

end Keyword

/-- Operators and punctuation. -/
inductive Symbol where
  | equal
  | notEqual
  | less
  | lessEqual
  | greater
  | greaterEqual
  | minus
  | star
  | comma
  | dot
  | leftParen
  | rightParen
  | semicolon
  deriving DecidableEq, Repr

def Symbol.text : Symbol → String
  | .equal => "="
  | .notEqual => "!="
  | .less => "<"
  | .lessEqual => "<="
  | .greater => ">"
  | .greaterEqual => ">="
  | .minus => "-"
  | .star => "*"
  | .comma => ","
  | .dot => "."
  | .leftParen => "("
  | .rightParen => ")"
  | .semicolon => ";"

/-- The smallest unit of SQL text. -/
inductive Token where
  | keyword (word : Keyword)
  /-- A bare name, or a name between grave accents, which may hold any other character. -/
  | identifier (name : String)
  | integer (value : Int64)
  | float (value : ExtDouble)
  | string (value : String)
  | placeholder
  | symbol (sign : Symbol)
  | endOfInput
  deriving DecidableEq

/-- The token as error messages show it. -/
def Token.describe : Token → String
  | .keyword word => word.text
  | .identifier name => name
  | .integer value => toString value.toInt
  | .float value => Layout.plain.writeExt value
  | .string value => "'" ++ value ++ "'"
  | .placeholder => "?"
  | .symbol sign => sign.text
  | .endOfInput => "end of input"

/-- A token and the position of its first character. -/
structure Located where
  token : Token
  position : Nat
  deriving DecidableEq

end RecordQuery.Sql
