import RecordQuery.Text.Utf8

/-!
# Tags

A tag says what kind of data a node is. It is written in full, or as a handle and a suffix, where
the handle stands for the start of the tag. A tag need not be text.
-/

namespace RecordQuery.Yaml

/-- A tag is known by its bytes. -/
abbrev Tag := List UInt8

namespace Tag

/-- The start of the tags of the standard. -/
def standardStart : Tag := Text.toBytes "tag:yaml.org,2002:".toList

/-- The tag of a kind of the standard. -/
def standard (name : String) : Tag := standardStart ++ Text.toBytes name.toList

/-- The mark in front of tags that a document defines for itself. -/
def ownMark : UInt8 := 0x21

/-- The tag that says nothing. -/
def bare : Tag := [ownMark]

/-- Whether a document defines a tag for itself. Such a tag is text. -/
def isOwn : Tag → Bool
  | [] => false
  | first :: rest => first == ownMark && (Text.ofBytes? rest).isSome

/-- A tag ends where it has a zero byte. -/
def cut (bytes : List UInt8) : Tag := bytes.takeWhile (· != 0)

end Tag

/-- A tag as it is written. -/
structure TagName where
  handle : String
  suffix : Tag

/-- The starts that handles stand for. -/
abbrev Handles := List (String × Tag)

/-- The handles of every document. -/
def standardHandles : Handles := [("!", Tag.bare), ("!!", Tag.standardStart)]

/-- The tag that a name stands for, if its handle is known. -/
def TagName.expand? (name : TagName) (handles : Handles) : Option Tag :=
  if name.handle.isEmpty then some name.suffix
  else (handles.lookup name.handle).map (· ++ name.suffix)

end RecordQuery.Yaml
