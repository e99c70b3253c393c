import RecordQuery.Table.Error
import RecordQuery.Table.Files

/-!
# Files of tables

A table lies in a file of its own name, or of that name with an extension. The extension tells how
its lines are written and whether the file is compressed. One table needs no file: it holds one
record without fields.
-/

namespace RecordQuery

/-- How the lines of a table are written. -/
inductive Format where
  | json
  | yaml
  deriving DecidableEq

/-- The file of a table. The built-in table has no path. -/
structure Resource where
  name : String
  path? : Option String
  format : Format
  compressed : Bool
  deriving DecidableEq

/-- The bytes that a file yields and the fault that ends them, where it is not their end. -/
structure Content where
  bytes : List UInt8
  fault : Option FileFault

namespace Resource

/-- The extensions that are tried behind the bare name of a table. -/
def extensions : List String := [".json", ".json.gz", ".yaml", ".yaml.gz"]

/-- The table that needs no file. -/
def builtInName : String := "single"

/-- The text of the built-in table. -/
def builtInText : String := "\x7b\x7d"

/-- The format that a path ends in, and whether the file is compressed. -/
def formatOf? (path : String) : Option (Format × Bool) :=
  let name := (Files.lastPart path).toLower
  let compressed := name.endsWith ".gz"
  let stem := if compressed then String.ofList (name.toList.take (name.length - 3)) else name
  match Files.extension? stem with
  | some "json" => some (.json, compressed)
  | some "yaml" | some "yml" => some (.yaml, compressed)
  | _ => none

/-- The paths at which a table may lie, in the order in which they are tried. -/
def candidates (directory name : String) (extensions : List String) : List String :=
  Files.join directory name :: extensions.map fun ext => Files.join directory (name ++ ext)

/-- The file of a table in a directory: the first candidate that exists. -/
def locate (files : Files) (directory name : String) (extensions : List String) :
    TableResult Resource :=
  let found := (candidates directory name extensions).findSome? fun path =>
    (files.at? path).map (path, ·)
  match found with
  | some (path, .directory) => .error (.resource (.directory path))
  | some (path, .file _) =>
      match formatOf? path with
      | some (format, compressed) => .ok ⟨name, some path, format, compressed⟩
      | none => .error (.resource (.unsupportedFormat path))
  | none =>
      if Text.sameLetters name builtInName then .ok ⟨name, none, .json, false⟩
      else .error (.resource (.missing (Files.join directory name)))

/-- The name of the file in messages. -/
def label (resource : Resource) : String := resource.path?.getD resource.name

/-- The content of a compressed file. -/
def unpacked (file : List UInt8) : Content :=
  let unpacked := Gzip.unpack file
  ⟨unpacked.bytes, unpacked.fault.map .gzip⟩

/-- What the file holds at this moment. -/
def content (resource : Resource) (files : Files) : Content :=
  match resource.path? with
  | none => ⟨builtInText.toUTF8.toList, none⟩
  | some path =>
      match files.at? path with
      | none => ⟨[], some .notFound⟩
      | some .directory => ⟨[], some .isDirectory⟩
      | some (.file bytes) => if resource.compressed then unpacked bytes else ⟨bytes, none⟩

end Resource

end RecordQuery
