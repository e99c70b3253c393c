import RecordQuery.Settings
import RecordQuery.Table.Session

/-!
# The command line

One run of the program connects to a directory of tables, registers the record types it is given,
and runs one statement. The rows of a SELECT are printed as JSON objects, one after the other.
-/

namespace RecordQuery

/-- The options and the statement of one run. -/
structure CommandLine where
  location : Option String
  types : List String
  args : List String
  pretty : Bool
  columns : Bool
  sql : Option String

namespace CommandLine

/-- What a run leaves: its exit code, what it printed, and its error message. -/
structure Outcome where
  code : Nat
  output : String
  error : Option String

/-! ## Reading -/

/-- What the words of a command line ask for. -/
inductive Request where
  | run (command : CommandLine)
  | help
  | misuse

def start : CommandLine := ⟨none, [], [], false, false, none⟩

/-- A word that is an option; a single hyphen is not. -/
def isOption (word : String) : Bool :=
  word.startsWith "-" && word != "-"

/-- The name and the value of a word of the form `--name=value`. -/
def splitValue (word : String) : String × Option String :=
  let name := word.toList.takeWhile (· != '=')
  match word.toList.dropWhile (· != '=') with
  | _ :: value => (String.ofList name, some (String.ofList value))
  | [] => (word, none)

/-- The command with the value of an option; none where no such option takes a value, or where it
has one already. -/
def withValue (command : CommandLine) (name value : String) : Option CommandLine :=
  match name with
  | "--dsn" =>
      if command.location.isSome then none else some { command with location := some value }
  | "--type" => some { command with types := command.types ++ [value] }
  | "--arg" => some { command with args := command.args ++ [value] }
  | _ => none

/-- The command with an option that takes no value; each may be given once. -/
def withFlag (command : CommandLine) (name : String) : Option CommandLine :=
  match name with
  | "--pretty" => if command.pretty then none else some { command with pretty := true }
  | "--columns" => if command.columns then none else some { command with columns := true }
  | _ => none

/-- The command with its statement. -/
def withStatement (command : CommandLine) (sql : String) : Option CommandLine :=
  if command.sql.isSome then none else some { command with sql := some sql }

/-- A command is complete with its statement. -/
def finish (command : CommandLine) : Request :=
  if command.sql.isSome then .run command else .misuse

/-- Reads words behind a double hyphen, which are no options. -/
def readPlain (command : CommandLine) : List String → Request
  | [] => command.finish
  | word :: rest =>
      match command.withStatement word with
      | some command => readPlain command rest
      | none => .misuse

/-- Reads the words of a command line. -/
def read (command : CommandLine) : List String → Request
  | [] => command.finish
  | word :: rest =>
      if word == "--" then readPlain command rest
      else if !isOption word then
        match command.withStatement word with
        | some command => read command rest
        | none => .misuse
      else if word == "--help" || word.startsWith "-h" then .help
      else
        match command.withFlag word with
        | some command => read command rest
        | none =>
            match splitValue word, rest with
            | (name, some value), rest =>
                match command.withValue name value with
                | some command => read command rest
                | none => .misuse
            | (name, none), value :: rest =>
                if isOption value then .misuse
                else
                  match command.withValue name value with
                  | some command => read command rest
                  | none => .misuse
            | (_, none), [] => .misuse

/-! ## Running -/

/-- Where the tables lie unless something else is said. -/
def defaultLocation : String := "."

/-- The variable that may name the location of the tables. -/
def locationVariable : String := "PATHQL_DSN"

/-- The location of the tables: the one on the command line, else the one that is set outside. -/
def locationOr (command : CommandLine) (location : Option String) : String :=
  (command.location.or location).getD defaultLocation

/-- An error as it is reported: its message, and the error behind it. -/
structure Report where
  message : String
  cause : Option String

namespace Report

def ofError (error : TableError) : Report := ⟨error.message, error.cause?⟩

/-- The text of a report. The lines of the cause are indented. -/
def text (report : Report) : String :=
  let indented (line : List Char) := "    " ++ String.ofList line
  let cause :=
    match report.cause with
    | none => ""
    | some cause =>
        "\n\nCaused by:\n" ++ "\n".intercalate ((Text.splitAt '\n' cause.toList).map indented)
  "Error: " ++ report.message ++ cause ++ "\n"

end Report

/-- A result of tables as a result of the run. -/
def reported {α : Type} (result : TableResult α) : Except Report α :=
  result.mapError .ofError

/-- Registers a type that is given as a name, an equals sign and a definition. -/
def addType (session : Session) (entry : String) : Except Report Session :=
  match splitValue entry with
  | (_, none) =>
      .error ⟨"invalid --type '" ++ entry ++ "', expected Name=definition", none⟩
  | (name, some definition) => do
      let name := Text.trim name
      return session.register 0 name
        (← reported (RecordType.ofDefinition name (Text.trim definition)))

/-- An argument of the statement: JSON text, or else the word itself. -/
def argument (word : String) : Value :=
  (Json.read word.toList).getD (.string word)

/-- The description of a column. -/
def describe (column : OutputColumn) : Value :=
  .object [("name", .string column.name), ("database_type", .string column.schema.databaseType),
    ("nullable", .bool column.schema.isOptional)]

/-- A row as an object with the names of the columns. -/
def rowObject (columns : List OutputColumn) (row : List Value) : Value :=
  .object (Fields.ofWrites ((columns.map (·.name)).zip row))

/-- Prints rows up to the first that is an error. -/
def printRows (command : CommandLine) (columns : List OutputColumn) :
    List (TableResult (List Value)) → String × Option Report
  | [] => ("", none)
  | .error error :: _ => ("", some (.ofError error))
  | .ok row :: rest =>
      let record := rowObject columns row
      let text := if command.pretty then record.pretty else record.text
      let (output, report) := printRows command columns rest
      (text ++ "\n" ++ output, report)

/-- The session with its one connection and the given types. -/
def connect (command : CommandLine) (files : Files) (location : String) :
    Except Report (Connection × Session) := do
  match Session.empty.connect files location .standard with
  | .error error => throw ⟨"failed to open " ++ location, some error.message⟩
  | .ok (connection, session) => return (connection, ← command.types.foldlM addType session)

/-- Runs the statement: what is printed, and the error that ends it. -/
def execute (command : CommandLine) (files : Files) (now : Instant) (location sql : String) :
    Except Report (String × Option Report) := do
  let (_, session) ← command.connect files location
  let args := command.args.map argument
  let (prepared, session) := session.prepare 0 sql
  let prepared ← reported prepared
  match session.connections with
  | connection :: _ =>
      if prepared.select?.isNone then
        let _ ← reported (session.execute 0 prepared args)
        return ("", none)
      else
        let cursor ← reported (connection.query files now prepared args)
        let columns := cursor.scan.plan.columns
        let header :=
          if command.columns then (Value.array (columns.map describe)).text ++ "\n" else ""
        let (output, report) := printRows command columns (cursor.rows files)
        return (header ++ output, report)
  | [] => return ("", none)

/-- How the program is used, with the location that is set outside the command line. -/
def usage (location : Option String) : String :=
  "PathQL - SQL over line-delimited JSON/YAML tables\n\n" ++
    "Usage: pathql [OPTIONS] <SQL>\n\n" ++
    "Arguments:\n" ++
    "  <SQL>  SELECT or REGISTER TYPE statement\n\n" ++
    "Options:\n" ++
    "      --dsn <DSN>     Data source name (e.g. file:///data/ or a bare directory path) " ++
    "[env: " ++ locationVariable ++ "=" ++ location.getD "" ++ "] " ++
    "[default: " ++ defaultLocation ++ "]\n" ++
    "      --type <TYPES>  Register a table type (e.g. --type " ++
    "'Foo=struct\x7bId int; Name string\x7d')\n" ++
    "      --arg <ARGS>    Placeholder argument; parsed as JSON, falling back to a plain string\n" ++
    "      --pretty        Pretty-print each row\n" ++
    "      --columns       Print column metadata before the rows\n" ++
    "  -h, --help          Print help\n"

/-- The location that is set outside the command line: in the environment, else in a settings
file. -/
def outerLocation (files : Files) (environment : Settings.Environment) : Option String :=
  (Settings.ofFiles files).foldl Settings.Environment.assign environment locationVariable

/-- One run of the program. It stops at once where a settings file has a value that cannot be
stored. -/
def run (files : Files) (now : Instant) (environment : Settings.Environment)
    (words : List String) : Outcome :=
  if Settings.unstorable environment (Settings.ofFiles files) then ⟨101, "", none⟩
  else
    let location := outerLocation files environment
    match start.read words with
    | .misuse => ⟨2, "", none⟩
    | .help => ⟨0, usage location, none⟩
    | .run command =>
        match command.execute files now (command.locationOr location) (command.sql.getD "") with
        | .error report => ⟨1, "", some report.text⟩
        | .ok (output, none) => ⟨0, output, none⟩
        | .ok (output, some report) => ⟨1, output, some report.text⟩

/-! ## The files of a run -/

/-- The directories at which the location may turn out to lie: the one where no file exists, and
the one where every file does. -/
def directories (workingDirectory location : String) : List String :=
  let worlds : List Files :=
    [⟨workingDirectory, fun _ => none⟩, ⟨workingDirectory, fun _ => some .directory⟩]
  worlds.filterMap fun files => (Location.parse files location).toOption.map (·.path)

/-- The table that the statement reads from. -/
def table? (command : CommandLine) : Option String := do
  let prepared ← (Prepared.ofText (command.sql.getD "")).toOption
  (← prepared.select?).table?

/-- The paths that a run may look up. -/
def lookups (workingDirectory : String) (location : Option String) (words : List String) :
    List String :=
  match start.read words with
  | .run command =>
      let directories := directories workingDirectory (command.locationOr location)
      let tables :=
        match command.table? with
        | some table => directories.flatMap (Resource.candidates · table Resource.extensions)
        | none => []
      directories ++ tables
  | _ => []

end CommandLine

end RecordQuery
