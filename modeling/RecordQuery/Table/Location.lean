import RecordQuery.Table.Error
import RecordQuery.Table.Files
import RecordQuery.Url

/-!
# Where tables lie

A data source name is the path of a directory or a URL of it. A path of a URL that exists under
the working directory is taken from there.
-/

namespace RecordQuery

/-- A directory of tables: its path, and the name under which it is reported. -/
structure Location where
  reported : String
  path : String
  deriving DecidableEq

namespace Location

/-- The scheme of data source names of this program; it reads like `file`. -/
def ownScheme : String := "pathql"

/-- The directory of a path in a URL. -/
def ofUrlPath (files : Files) (path : String) : Location :=
  let path := (files.fromWorkingDirectory? path).getD path
  ⟨"file://" ++ path, path⟩

/-- The location that a data source name names. -/
def parse (files : Files) (name : String) : TableResult Location := do
  let name := Text.trim name
  if name.isEmpty then throw (.location .empty)
  let badUrl (fault : UrlFault) : TableError := .location (.badUrl name fault)
  match Url.read name.toList with
  | .error .noScheme => return ⟨name, name⟩
  | .error fault => throw (badUrl fault)
  | .ok url =>
      if !url.queryNames.isEmpty then
        throw (.location (.unsupportedOptions (url.queryNames.mergeSort fun a b => !(b < a))))
      let fileUrl ←
        if url.scheme == "file" then pure url
        else if url.scheme == ownScheme then
          let address := (name.toList.drop (ownScheme.length + 1)).takeWhile (· != '?')
          match Url.read ("file:".toList ++ address) with
          | .ok url => pure url
          | .error fault => throw (badUrl fault)
        else throw (.location (.unsupportedScheme url.scheme))
      match fileUrl.localPath? with
      | some path => return ofUrlPath files (String.ofList path)
      | none => throw (.location (.notLocal name))

end Location

end RecordQuery
