import RecordQuery.Yaml.Tag

/-!
# Tokens of a document

Tokens are the words and signs of a document, and the starts and ends of blocks, which are only
seen in how far the lines are indented.
-/

namespace RecordQuery.Yaml

/-- A line in front of a document: the version of its notation, or what a handle stands for. -/
inductive Directive where
  | version (major minor : Nat)
  | handle (name : String) (start : Tag)

inductive Token where
  | directive (content : Directive)
  | documentStart
  | documentEnd
  | blockSequence
  | blockMapping
  | blockEnd
  | openBracket
  | closeBracket
  | openBrace
  | closeBrace
  | item
  | comma
  | key
  | value
  | alias (name : String)
  | anchor (name : String)
  | tag (name : TagName)
  | scalar ( isPlain : Bool) (text : List Char)

namespace Token

def isDocumentEnd : Token → Bool
  | .documentEnd => true
  | _ => false

def isComma : Token → Bool
  | .comma => true
  | _ => false

def isCloseBracket : Token → Bool
  | .closeBracket => true
  | _ => false

def isCloseBrace : Token → Bool
  | .closeBrace => true
  | _ => false

def isValue : Token → Bool
  | .value => true
  | _ => false

/-- Whether a token ends the content of a document. -/
def isOutside : Token → Bool
  | .directive _ | .documentStart | .documentEnd => true
  | _ => false

/-- Whether an item of a block has no content if a token follows its sign. -/
def endsItem : Token → Bool
  | .item | .blockEnd => true
  | _ => false

/-- Whether a key or value of a block has no content if a token follows its sign. -/
def endsEntry : Token → Bool
  | .key | .value | .blockEnd => true
  | _ => false

end Token

end RecordQuery.Yaml
