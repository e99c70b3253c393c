import RecordQuery.Text.Character
import RecordQuery.Text.Utf8

/-!
# The lines of a settings file

A line goes on where a quote is open at its end, and ends where a comment begins. A comment starts
with a number sign behind a blank. The reading of a file ends at bytes that are no text, and in
front of a line that is not complete.
-/

namespace RecordQuery.Settings

/-- Where in a line a character stands. -/
inductive Place where
  | word
  | blank
  | escaped
  | double
  | doubleEscaped
  | single
  | singleEscaped
  deriving DecidableEq

/-- The place behind a character. -/
def Place.after (place : Place) (c : Char) : Place :=
  match place with
  | .escaped => .word
  | .double => if c == '\\' then .doubleEscaped else if c == '"' then .word else .double
  | .doubleEscaped => .double
  | .single => if c == '\\' then .singleEscaped else if c == '\'' then .word else .single
  | .singleEscaped => .single
  | .word | .blank =>
      if c == '\\' then .escaped
      else if c == '"' then .double
      else if c == '\'' then .single
      else if place == .word && Text.isBlank c && c != '\n' && c != '\r' then .blank
      else .word

/-- The text in front of a comment, if one begins here, and the place behind the text. -/
def beforeComment (place : Place) : List Char → List Char × Option Place
  | [] => ([], some place)
  | c :: rest =>
      if place == .blank && c == '#' then ([], none)
      else
        let (text, last) := beforeComment (place.after c) rest
        (c :: text, last)

/-- The lines of a file from its parts that end with a line feed; a part may be no text. What has
been found of an open line is `start`. -/
def joinLines (start : List Char) (place : Place) : List (Option (List Char)) → List (List Char)
  | [] | none :: _ => []
  | some part :: parts =>
      if ((start ++ part).dropWhile Text.isBlank).head? == some '#' then joinLines [] .word parts
      else
        match beforeComment place part with
        | (text, none) | (text, some .word) => (start ++ text) :: joinLines [] .word parts
        | (text, some place) => joinLines (start ++ text) place parts

/-- The bytes of a file in parts that end with a line feed. -/
def lineBytes : List UInt8 → List (List UInt8)
  | [] => []
  | byte :: rest =>
      if byte == 10 then [byte] :: lineBytes rest
      else
        match lineBytes rest with
        | [] => [[byte]]
        | line :: lines => (byte :: line) :: lines

/-- The bytes that may stand in front of a text to mark it as UTF-8. -/
def byteOrderMark : List UInt8 := [0xef, 0xbb, 0xbf]

/-- The lines of a file, up to one that cannot be read. -/
def lines (bytes : List UInt8) : List (List Char) :=
  let bytes := if byteOrderMark.isPrefixOf bytes then bytes.drop 3 else bytes
  joinLines [] .word ((lineBytes bytes).map Text.ofBytes?)

end RecordQuery.Settings
