import RecordQuery.Url.Host

/-!
# Paths in file URLs

The path of a file URL is a list of segments. A segment of one dot stands for the place itself and
one of two dots for the segment before; a dot may be percent-encoded. A drive letter followed by a
colon or a bar is never left by two dots. Line ends and tabs do not count, but behind a drive letter
they end a segment.
-/

namespace RecordQuery.Url

/-- A letter followed by a colon or a bar. -/
def isDriveLetter : List Char → Bool
  | [letter, mark] => letter.isAlpha && (mark == ':' || mark == '|')
  | _ => false

/-- A character that does not count in a URL. -/
def isIgnored (c : Char) : Bool :=
  c == '\t' || c == '\n' || c == '\r'

/-- The number of dots that a segment of dots alone stands for. -/
def dots? : List Char → Option Nat
  | [] => some 0
  | '.' :: rest => (dots? rest).map (· + 1)
  | '%' :: '2' :: 'e' :: rest | '%' :: '2' :: 'E' :: rest => (dots? rest).map (· + 1)
  | _ => none

/-- A path that has been followed: its segments, and whether the first of them was entered as a
drive letter. -/
structure Followed where
  segments : List (List Char)
  byDrive : Bool

/-- The segments before one that names the segment before. -/
def leaveSegment (before : List (List Char)) : List (List Char) :=
  if (before.getLast?.map isDriveLetter).getD false then before else before.dropLast

/-- A segment in two where it starts with a drive letter and a line end or tab divides this from
what follows. -/
def splitDrive? (segment : List Char) : Option (List Char × List Char) :=
  match segment.filter (!isIgnored ·) with
  | letter :: ':' :: next :: rest =>
      let behind := (segment.dropWhile (· != ':')).drop 1
      if letter.isAlpha && (behind.head?.map isIgnored).getD false then
        some ([letter, ':'], next :: rest)
      else none
  | _ => none

/-- Enters a segment. A drive letter that is the first segment gets a colon. -/
def Followed.enter (before : Followed) (segment : List Char) : Followed :=
  match before.segments, segment.filter (!isIgnored ·) with
  | [], [letter, mark] =>
      if isDriveLetter [letter, mark] then ⟨[[letter, ':']], true⟩
      else { before with segments := [[letter, mark]] }
  | segments, plain => { before with segments := segments ++ [plain] }

/-- Follows segments one by one from a place. The last one leads to a directory if it is of dots
alone. -/
def Followed.follow (before : Followed) : List (List Char) → Followed
  | [] => before
  | segment :: rest =>
      match if before.segments.isEmpty then splitDrive? segment else none with
      | some (drive, behind) => follow { before with segments := [drive, behind] } rest
      | none =>
          let dots := dots? (segment.filter (!isIgnored ·))
          let isDots := dots == some 1 || dots == some 2
          let place :=
            if dots == some 2 then { before with segments := leaveSegment before.segments }
            else if dots == some 1 then before
            else before.enter segment
          if rest.isEmpty && isDots then { place with segments := place.segments ++ [[]] }
          else place.follow rest

/-- The segments of a path, where a backslash counts as a slash. -/
def segments (path : List Char) : List (List Char) :=
  Text.splitAt '/' (path.map fun c => if c == '\\' then '/' else c)

/-- Drops empty segments in front, but never the last segment. -/
def dropEmpty : List (List Char) → List (List Char)
  | [] :: next :: rest => dropEmpty (next :: rest)
  | segments => segments

/-- The path that segments spell in a file system; a drive letter at the end is a directory. -/
def spellPath (segments : List (List Char)) : List Char :=
  let path := segments.flatMap fun segment => '/' :: percentDecodeText segment
  let atDrive :=
    match path.reverse with
    | mark :: letter :: _ :: _ => isDriveLetter [letter, mark]
    | _ => false
  if atDrive then path ++ ['/'] else path

end RecordQuery.Url
