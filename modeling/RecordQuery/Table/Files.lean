import RecordQuery.Text.Split

/-!
# Files and their paths

Tables are looked up by path. What a path leads to is one function, and a tree of files gives such
a function by walking the path from directory to directory.
-/

namespace RecordQuery

/-- What a path leads to. -/
inductive FileEntry where
  | file (content : List UInt8)
  | directory

/-- The files that can be reached at one moment. -/
structure Files where
  workingDirectory : String
  at? : String → Option FileEntry

namespace Files

/-- A name as a path from a directory; an absolute one stays as it is. -/
def join (directory name : String) : String :=
  if name.startsWith "/" || directory.isEmpty then name
  else if directory.endsWith "/" then directory ++ name
  else directory ++ "/" ++ name

/-- The parts of a path between slashes. -/
def parts (path : String) : List String :=
  (Text.splitAt '/' path.toList).map String.ofList

/-- A part that leads nowhere. -/
def isIdle (part : String) : Bool := part.isEmpty || part == "."

/-- The path without idle parts at both ends; such an absolute path becomes a relative one. -/
def trimPath (path : String) : String :=
  let trimmed := ((parts path).dropWhile isIdle).reverse.dropWhile isIdle
  "/".intercalate trimmed.reverse

/-- The last part of a path that leads somewhere. -/
def lastPart (path : String) : String :=
  ((parts path).reverse.dropWhile isIdle).headD ""

/-- The text behind the last dot of a name, unless the name starts there. -/
def extension? (name : String) : Option String :=
  let behind := name.toList.reverse.takeWhile (· != '.')
  if behind.length + 1 < name.length then some (String.ofList behind.reverse) else none

/-- An absolute path taken from the working directory, where something lies there. -/
def fromWorkingDirectory? (files : Files) (path : String) : Option String :=
  let relative := trimPath path
  if relative.isEmpty then none
  else
    let candidate := join files.workingDirectory relative
    if (files.at? candidate).isSome then some candidate else none

end Files

/-- A tree of files. Each entry has its place: the names that lead to it from the root. The
directories above an entry and above the working directory are there too. -/
structure FileTree where
  workingDirectory : List String
  entries : List (List String × FileEntry)

namespace FileTree

/-- What lies at a place. -/
def entry? (tree : FileTree) (place : List String) : Option FileEntry :=
  match tree.entries.lookup place with
  | some entry => some entry
  | none =>
      if place.isPrefixOf tree.workingDirectory || tree.entries.any (place.isPrefixOf ·.1) then
        some .directory
      else none

def isDirectory (tree : FileTree) (place : List String) : Bool :=
  match tree.entry? place with
  | some .directory => true
  | _ => false

/-- One step along a path from a place, which has to be a directory. -/
def step (tree : FileTree) (place : List String) (part : String) : Option (List String) :=
  if !tree.isDirectory place then none
  else if Files.isIdle part then some place
  else if part == ".." then some place.dropLast
  else some (place ++ [part])

/-- What a path leads to. -/
def at? (tree : FileTree) (path : String) : Option FileEntry :=
  if path.isEmpty then none
  else do
    let start := if path.startsWith "/" then [] else tree.workingDirectory
    tree.entry? (← (Files.parts path).foldlM tree.step start)

/-- Writes what lies at a place. -/
def write (tree : FileTree) (place : List String) (entry : FileEntry) : FileTree :=
  { tree with entries := tree.entries.filter (·.1 != place) ++ [(place, entry)] }

/-- Removes what lies at a place; the directory around it stays. -/
def remove (tree : FileTree) (place : List String) : FileTree :=
  if (tree.entry? place).isSome then
    let others := tree.entries.filter (·.1 != place)
    { tree with entries := others ++ [(place.dropLast, .directory)] }
  else tree

def files (tree : FileTree) : Files :=
  ⟨"/" ++ "/".intercalate tree.workingDirectory, tree.at?⟩

end FileTree

end RecordQuery
