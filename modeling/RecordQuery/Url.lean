import RecordQuery.Url.Authority
import RecordQuery.Url.FilePath

/-!
# URLs

A URL is read as far as it locates files: its scheme, the names in its query, and the path of a
file. Other URLs are only checked for being well formed.
-/

namespace RecordQuery

/-- A location of files: whether it names a machine of its own, and its path. -/
structure FileLocation where
  remote : Bool
  segments : List (List Char)

/-- A URL. Only one with the scheme `file` locates files. -/
structure Url where
  scheme : String
  query : List Char
  file? : Option FileLocation

namespace Url

/-- Splits the scheme, in lower case, from what follows its colon. -/
def readScheme (text : List Char) : Option (List Char × List Char) :=
  let isSchemeChar (c : Char) := c.isAlphanum || c == '+' || c == '-' || c == '.' || isIgnored c
  let scheme := (text.takeWhile isSchemeChar).filter (!isIgnored ·)
  match text.dropWhile isSchemeChar with
  | ':' :: rest =>
      if (scheme.head?.map Char.isAlpha).getD false then some (scheme.map Char.toLower, rest)
      else none
  | _ => none

def isSlash (c : Char) : Bool := c == '/' || c == '\\'

/-- The text behind a slash in front. -/
def behindSlash? (text : List Char) : Option (List Char) :=
  match text.dropWhile isIgnored with
  | [] => none
  | c :: rest => if isSlash c then some rest else none

/-- The location of a path without its first slash on some machine. A machine that is named before
a drive letter does not count. -/
def locate (remote : Bool) (path : List Char) : FileLocation :=
  let place := Followed.follow ⟨[], false⟩ (segments path)
  ⟨remote && !place.byDrive, dropEmpty place.segments⟩

/-- The location of files behind the scheme, without query and fragment. A path behind two slashes
keeps its first slash, unless a machine is named there. -/
def readFile (text : List Char) : Except UrlFault FileLocation :=
  match behindSlash? text with
  | none => .ok (locate false text)
  | some behindOne =>
      match behindSlash? behindOne with
      | none => .ok (locate false behindOne)
      | some address => do
          let host := (address.takeWhile (!isSlash ·)).filter (!isIgnored ·)
          let path := address.dropWhile (!isSlash ·)
          if isDriveLetter host then return locate false address
          if host.isEmpty then return locate false path
          if (← Host.ofWeb host) == .domain "localhost".toList then return locate false path
          return locate true (path.drop 1)

/-- Reads a URL. Blanks and controls around it and line ends within it do not count. -/
def read (text : List Char) : Except UrlFault Url := do
  let isOuter (c : Char) := c.toNat ≤ 0x20
  let trimmed := ((text.dropWhile isOuter).reverse.dropWhile isOuter).reverse
  match readScheme trimmed with
  | none => throw .noScheme
  | some (schemeChars, rest) =>
      let scheme := String.ofList schemeChars
      let address := rest.takeWhile (· != '#')
      let located := address.takeWhile (· != '?')
      let query := ((address.dropWhile (· != '?')).drop 1).filter (!isIgnored ·)
      let plain := rest.filter (!isIgnored ·)
      let file? ←
        if scheme == "file" then some <$> readFile located
        else if ["http", "https", "ws", "wss", "ftp"].contains scheme then do
          checkAuthority .web (plain.dropWhile isSlash)
          pure none
        else
          match plain with
          | '/' :: '/' :: authority => do
              checkAuthority .other authority
              pure none
          | _ => pure none
      return { scheme, query, file? }

/-- The names in the query of a URL, in order. -/
def queryNames (url : Url) : List String :=
  ((Text.splitAt '&' url.query).filter (!·.isEmpty)).map fun pair =>
    let name := (pair.takeWhile (· != '=')).map fun c => if c == '+' then ' ' else c
    String.ofList (percentDecodeText name)

/-- The path of the files that a URL locates on this machine. -/
def localPath? (url : Url) : Option (List Char) :=
  url.file?.bind fun file => if file.remote then none else some (spellPath file.segments)

end Url

end RecordQuery
