import RecordQuery.Value
import RecordQuery.Number.Layout
import RecordQuery.Text.Quoted

/-!
# The JSON text of a value

Values are written on one line without blanks, as messages and rows use them, or spread over
indented lines for reading.
-/

namespace RecordQuery

namespace Number

/-- The JSON text of a number. -/
def text : Number → String
  | .int n => toString n.val
  | .float x => Layout.json.write x

end Number

namespace Value

/-- One character of a JSON string. -/
def jsonChar : Char → List Char
  | '"' => ['\\', '"']
  | '\\' => ['\\', '\\']
  | '\x08' => ['\\', 'b']
  | '\t' => ['\\', 't']
  | '\n' => ['\\', 'n']
  | '\x0c' => ['\\', 'f']
  | '\r' => ['\\', 'r']
  | c =>
      if c.toNat < 0x10 then '\\' :: 'u' :: '0' :: '0' :: '0' :: Text.hexadecimal c.toNat
      else if c.toNat < 0x20 then '\\' :: 'u' :: '0' :: '0' :: Text.hexadecimal c.toNat
      else [c]

/-- A JSON string with its quotes. -/
def jsonString (s : String) : String :=
  String.ofList ('"' :: s.toList.flatMap jsonChar ++ ['"'])

mutual
/-- The text without blanks. -/
def text : Value → String
  | .null => "null"
  | .bool true => "true"
  | .bool false => "false"
  | .number n => n.text
  | .string s => jsonString s
  | .array items => "[" ++ ",".intercalate (itemTexts items) ++ "]"
  | .object fields => "\x7b" ++ ",".intercalate (fieldTexts fields) ++ "\x7d"

def itemTexts : List Value → List String
  | [] => []
  | item :: rest => item.text :: itemTexts rest

def fieldTexts : List (String × Value) → List String
  | [] => []
  | (name, value) :: rest => (jsonString name ++ ":" ++ value.text) :: fieldTexts rest
end

/-- A group of parts on lines of their own, one level deeper than `indent`. -/
def spread (indent opening closing : String) (parts : List String) : String :=
  if parts.isEmpty then opening ++ closing
  else
    let line (part : String) := "\n" ++ indent ++ "  " ++ part
    opening ++ ",".intercalate (parts.map line) ++ "\n" ++ indent ++ closing

mutual
/-- The text over several lines, nested parts indented by two blanks; `indent` stands before the
closing bracket. -/
def prettyAt (indent : String) : Value → String
  | .array items => spread indent "[" "]" (prettyItems (indent ++ "  ") items)
  | .object fields => spread indent "\x7b" "\x7d" (prettyFields (indent ++ "  ") fields)
  | .null => text .null
  | .bool value => text (.bool value)
  | .number value => text (.number value)
  | .string value => text (.string value)

def prettyItems (indent : String) : List Value → List String
  | [] => []
  | item :: rest => prettyAt indent item :: prettyItems indent rest

def prettyFields (indent : String) : List (String × Value) → List String
  | [] => []
  | (name, value) :: rest =>
      (jsonString name ++ ": " ++ prettyAt indent value) :: prettyFields indent rest
end

/-- The text over several lines. -/
def pretty (value : Value) : String := value.prettyAt ""

end Value

end RecordQuery
