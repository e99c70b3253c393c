import RecordQuery.Settings.Lines
import RecordQuery.Table.Files

/-!
# Settings

A settings file gives values to variables that are not set already. A value may name variables; what
they stand for is looked up when the file is loaded. Loading ends in front of the first line that
is no assignment.
-/

namespace RecordQuery.Settings

/-- A part of a value. -/
inductive Piece where
  | char (c : Char)
  | reference (name : String)

/-- A variable, and what makes up its value. -/
structure Assignment where
  name : String
  value : List Piece

/-! ## Reading -/

/-- Where in a value a character stands: in front of a character of its own, behind a backslash, in
single quotes, in the name of a variable with or without braces, or behind the value. -/
inductive Standing where
  | text
  | escaped
  | quoted
  | name (letters : List Char)
  | braced (letters : List Char)
  | behind

/-- The character that stands for itself, or for another, behind a backslash. -/
def escapedChar? (c : Char) : Option Char :=
  match c with
  | '\\' | '\'' | '"' | '$' | ' ' => some c
  | 'n' => some '\n'
  | _ => none

/-- Whether a character may stand in a name without braces. -/
def isNameChar (c : Char) : Bool :=
  Text.isAlphabetic c || Text.isNumeric c

/-- Reads a value; `isOpen` says whether a double quote is open. Inside a name a double quote is a
character like others. -/
def readValue ( isOpen : Bool) : Standing → List Char → Option (List Piece)
  | .text, [] | .escaped, [] => if isOpen then none else some []
  | .name letters, [] => if isOpen then none else some [.reference (String.ofList letters)]
  | .behind, [] => some []
  | .quoted, [] | .braced _, [] => none
  | .behind, c :: rest =>
      if c == ' ' || c == '\t' then readValue isOpen .behind rest
      else if c == '#' then some []
      else none
  | .escaped, c :: rest => do
      let c ← escapedChar? c
      return .char c :: (← readValue isOpen .text rest)
  | .quoted, c :: rest =>
      if c == '\'' then readValue isOpen .text rest
      else do return .char c :: (← readValue isOpen .quoted rest)
  | .name letters, c :: rest =>
      if isNameChar c then readValue isOpen (.name (letters ++ [c])) rest
      else if c == '{' && letters.isEmpty then readValue isOpen (.braced []) rest
      else do
        let part := Piece.reference (String.ofList letters)
        if c == '$' then return part :: (← readValue isOpen (.name []) rest)
        else return part :: .char c :: (← readValue isOpen .text rest)
  | .braced letters, c :: rest =>
      if c == '}' then do
        return .reference (String.ofList letters) :: (← readValue isOpen .text rest)
      else readValue isOpen (.braced (letters ++ [c])) rest
  | .text, c :: rest =>
      if c == '$' then readValue isOpen (.name []) rest
      else if c == '"' then readValue (!isOpen) .text rest
      else if c == '\\' then readValue isOpen .escaped rest
      else if isOpen then do return .char c :: (← readValue isOpen .text rest)
      else if c == '\'' then readValue isOpen .quoted rest
      else if c == ' ' || c == '\t' then readValue isOpen .behind rest
      else do return .char c :: (← readValue isOpen .text rest)

/-- The name of a variable in front of a text, and the text behind it and the blanks there. -/
def readKey (text : List Char) : Option (String × List Char) :=
  let isKeyChar (c : Char) : Bool := c.isAlphanum || c == '_' || c == '.'
  match text with
  | [] => none
  | c :: _ =>
      if c.isAlpha || c == '_' then
        some (String.ofList (text.takeWhile isKeyChar),
          (text.dropWhile isKeyChar).dropWhile Text.isBlank)
      else none

/-- Reads the value behind an equals sign. -/
def readAssignment (name : String) : List Char → Option Assignment
  | '=' :: rest =>
      match rest.dropWhile Text.isBlank with
      | [] | '#' :: _ => some ⟨name, []⟩
      | value => (readValue false .text value).map (⟨name, ·⟩)
  | _ => none

/-- Whether a line says nothing. -/
def isIdle (line : List Char) : Bool :=
  line.isEmpty || line.head? == some '#'

/-- Reads a line without blanks at its ends. The word `export` may stand in front of the name. -/
def readLine (line : List Char) : Option Assignment := do
  let (name, rest) ← readKey line
  if name == "export" && rest.head? != some '=' then
    let (name, rest) ← readKey rest
    readAssignment name rest
  else readAssignment name rest

/-- The assignments of some lines, up to a line that is none. -/
def assignments : List (List Char) → List Assignment
  | [] => []
  | line :: lines =>
      let line := Text.trimChars line
      if isIdle line then assignments lines
      else
        match readLine line with
        | some assignment => assignment :: assignments lines
        | none => []

/-! ## Loading -/

/-- Variables and their values. -/
abbrev Environment := String → Option String

/-- The text of a value. A variable that is not set stands for nothing. -/
def valueText (environment : Environment) (value : List Piece) : String :=
  String.join (value.map fun
    | .char c => c.toString
    | .reference name => (environment name).getD "")

/-- The environment with a variable that keeps its value if it has one. -/
def Environment.assign (environment : Environment) (assignment : Assignment) : Environment :=
  let value := valueText environment assignment.value
  fun name =>
    if name == assignment.name then some ((environment name).getD value) else environment name

/-- The variables whose values cannot be stored, as they have a NUL. -/
def unstorable (environment : Environment) : List Assignment → Bool
  | [] => false
  | assignment :: rest =>
      (environment assignment.name).isNone &&
          (valueText environment assignment.value).contains '\x00' ||
        unstorable (environment.assign assignment) rest

/-- The name of a settings file. -/
def fileName : String := ".env"

/-- The working directory, the directory around it, and so on. -/
def searched (workingDirectory : String) : List String :=
  let names := (Files.parts workingDirectory).filter (!·.isEmpty)
  (List.range (names.length + 1)).map fun count =>
    "/" ++ "/".intercalate (names.take (names.length - count))

/-- The paths where a settings file may lie. -/
def paths (workingDirectory : String) : List String :=
  (searched workingDirectory).map (Files.join · fileName)

/-- The assignments of the first settings file. -/
def ofFiles (files : Files) : List Assignment :=
  let contents := (paths files.workingDirectory).filterMap fun path =>
    match files.at? path with
    | some (.file content) => some content
    | _ => none
  assignments (lines (contents.headD []))

/-- The variables that some assignments set or name. -/
def mentioned (assignments : List Assignment) : List String :=
  assignments.flatMap fun assignment =>
    assignment.name :: assignment.value.filterMap fun
      | .char _ => none
      | .reference name => some name

end RecordQuery.Settings
