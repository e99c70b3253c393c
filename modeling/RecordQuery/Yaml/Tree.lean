import RecordQuery.Text.Taken
import RecordQuery.Yaml.Node
import RecordQuery.Yaml.Token

/-!
# From tokens to nodes

Tokens of blocks, brackets and braces make nodes. A node may have an anchor, under which it can be
repeated, and a tag. Where a key, a value or an item is left out, it is an empty scalar.
-/

namespace RecordQuery.Yaml

open Text (Taken Front)

/-! ## Properties -/

/-- The anchor and the tag of a node. -/
structure Properties where
  anchor : Option String
  tag : Option Tag

/-- The properties in front of a node: at most one anchor and one tag. -/
def readProperties (handles : Handles) (input : List Token) : Option (Front Properties input) :=
  match input with
  | .anchor name :: .tag tag :: rest | .tag tag :: .anchor name :: rest => do
      return ⟨⟨some name, some (← tag.expand? handles)⟩, rest, Nat.le_add_right _ 2⟩
  | .anchor name :: rest => some ⟨⟨some name, none⟩, rest, Nat.le_add_right _ 1⟩
  | .tag tag :: rest => do
      return ⟨⟨none, some (← tag.expand? handles)⟩, rest, Nat.le_add_right _ 1⟩
  | input => some ⟨⟨none, none⟩, input, Nat.le_refl _⟩

/-- The numbers of the names of anchors. -/
abbrev Names := List (String × Nat)

/-- The number of a name that a node has from now on: the number of names that are known. -/
def Names.add (names : Names) (name : String) : Names :=
  (name, names.length) :: names.filter (·.1 != name)

/-- The names behind the start of a node, and the node with its anchor. -/
def Properties.note (properties : Properties) (names : Names) : Names × (Node → Node) :=
  match properties.anchor with
  | none => (names, id)
  | some name => (names.add name, .anchored names.length)

/-- A scalar with its tag. A tag that says nothing does not count. -/
def scalarNode ( isPlain : Bool) (tag : Option Tag) (text : List Char) : Node :=
  .scalar ⟨isPlain, tag.filter (· != Tag.bare), text⟩

/-! ## Nodes -/

/-- Where a node stands: in brackets or braces, in a block, or behind the sign of a key or value in
a block, where items may stand without a block of their own. -/
inductive Position where
  | flow
  | block
  | entry
  deriving DecidableEq

/-- Whether a part in brackets or braces has no content if a token follows its sign. -/
def endsPart (closing : Token → Bool) (token : Token) : Bool := token.isComma || closing token

/-- The input behind the comma that stands in front of all parts but the first. -/
def skipComma ( isFirst : Bool) (input : List Token) : Option (Front Unit input) :=
  if isFirst then some ⟨(), input, Nat.le_refl _⟩
  else
    match input with
    | .comma :: rest => some ⟨(), rest, Nat.le_succ _⟩
    | _ => none

mutual
/-- The node in front. Properties may stand alone; otherwise something has to be there. -/
def readNode (handles : Handles) (position : Position) (names : Names) (input : List Token) :
    Option (Taken (Node × Names) input) :=
  match input with
  | .alias name :: rest => do
      return .head (.alias (← names.lookup name), names) (.alias name) rest
  | input => do
      let properties ← readProperties handles input
      have le : properties.rest.length ≤ input.length := properties.le
      let tag := properties.value.tag
      let (names, place) := properties.value.note names
      let bare : Option (Taken (Node × Names) input) :=
        if shorter : properties.rest.length < input.length then
          some ⟨(place (.empty tag), names), properties.rest, shorter⟩
        else none
      match content : properties.rest with
      | .scalar isPlain text :: rest =>
          have below : rest.length < input.length := Text.length_lt_of_eq_cons content le
          return ⟨(place (scalarNode isPlain tag text), names), rest, below⟩
      | .openBracket :: rest =>
          have below : rest.length < input.length := Text.length_lt_of_eq_cons content le
          let items ← readItems handles true names rest
          return (items.map fun (items, names) => (place (.sequence tag items), names)).widen
            (Nat.le_of_lt below)
      | .openBrace :: rest =>
          have below : rest.length < input.length := Text.length_lt_of_eq_cons content le
          let entries ← readEntries handles true names rest
          return (entries.map fun (entries, names) => (place (.mapping tag entries), names)).widen
            (Nat.le_of_lt below)
      | .blockSequence :: rest =>
          have below : rest.length < input.length := Text.length_lt_of_eq_cons content le
          if position = .flow then bare
          else
            let items ← readBlockItems handles names rest
            return (items.map fun (items, names) => (place (.sequence tag items), names)).widen
              (Nat.le_of_lt below)
      | .blockMapping :: rest =>
          have below : rest.length < input.length := Text.length_lt_of_eq_cons content le
          if position = .flow then bare
          else
            let entries ← readBlockEntries handles names rest
            return (entries.map fun (entries, names) => (place (.mapping tag entries), names)).widen
              (Nat.le_of_lt below)
      | .item :: rest =>
          have below : rest.length < input.length := Text.length_lt_of_eq_cons content le
          if position = .entry then
            let items ← readLooseItems handles names rest
            return ⟨(place (.sequence tag items.value.1), items.value.2), items.rest,
              Nat.lt_of_le_of_lt items.le below⟩
          else bare
      | _ => bare
termination_by 4 * input.length

/-- The node in front, or an empty one in front of certain tokens. -/
def readContent (handles : Handles) (position : Position) (ends : Token → Bool) (names : Names)
    (input : List Token) : Option (Front (Node × Names) input) :=
  if input.head?.any ends then some ⟨(.empty none, names), input, Nat.le_refl _⟩
  else do
    let node ← readNode handles position names input
    return ⟨node.value, node.rest, Nat.le_of_lt node.shorter⟩
termination_by 4 * input.length + 1

/-- The value behind a key, if there is its sign; otherwise it is empty. -/
def readValue (handles : Handles) (position : Position) (ends : Token → Bool) (names : Names)
    (input : List Token) : Option (Front (Node × Names) input) :=
  match input with
  | .value :: rest => do
      let value ← readContent handles position ends names rest
      return ⟨value.value, value.rest, Nat.le_succ_of_le value.le⟩
  | input => some ⟨(.empty none, names), input, Nat.le_refl _⟩
termination_by 4 * input.length + 2

/-- The items of a block up to its end. -/
def readBlockItems (handles : Handles) (names : Names) (input : List Token) :
    Option (Taken (List Node × Names) input) :=
  match input with
  | .blockEnd :: rest => some (.head ([], names) .blockEnd rest)
  | .item :: rest => do
      let item ← readContent handles .block Token.endsItem names rest
      have le := item.le
      let more ← readBlockItems handles item.value.2 item.rest
      return (more.map fun (items, names) => (item.value.1 :: items, names)).widen
        (Nat.le_succ_of_le le)
  | _ => none
termination_by 4 * input.length

/-- The items behind the sign of the first one, where they stand without a block of their own. -/
def readLooseItems (handles : Handles) (names : Names) (input : List Token) :
    Option (Front (List Node × Names) input) := do
  let item ← readContent handles .block (fun token => token.endsItem || token.endsEntry) names input
  have le := item.le
  match sign : item.rest with
  | .item :: rest =>
      have below : rest.length < input.length := Text.length_lt_of_eq_cons sign le
      let more ← readLooseItems handles item.value.2 rest
      return ⟨(item.value.1 :: more.value.1, more.value.2), more.rest,
        Nat.le_trans more.le (Nat.le_of_lt below)⟩
  | rest => return ⟨([item.value.1], item.value.2), rest, sign ▸ le⟩
termination_by 4 * input.length + 2

/-- The entries of a block up to its end. -/
def readBlockEntries (handles : Handles) (names : Names) (input : List Token) :
    Option (Taken (List (Node × Node) × Names) input) :=
  match input with
  | .blockEnd :: rest => some (.head ([], names) .blockEnd rest)
  | .key :: rest => do
      let key ← readContent handles .entry Token.endsEntry names rest
      have keyLe := key.le
      let value ← readValue handles .entry Token.endsEntry key.value.2 key.rest
      have valueLe := value.le
      let more ← readBlockEntries handles value.value.2 value.rest
      return (more.map fun (entries, names) =>
        ((key.value.1, value.value.1) :: entries, names)).widen
          (Nat.le_succ_of_le (Nat.le_trans valueLe keyLe))
  | _ => none
termination_by 4 * input.length

/-- A pair behind the sign of its key, an item of its own in brackets. Where the key is left out,
the token behind its sign is passed over. -/
def readPair (handles : Handles) (names : Names) (input : List Token) :
    Option (Front (Node × Names) input) := do
  let ends := endsPart Token.isCloseBracket
  if input.head?.any fun token => token.isValue || ends token then
    let value ← readValue handles .flow ends names (input.drop 1)
    return ⟨(.mapping none [(.empty none, value.value.1)], value.value.2), value.rest,
      Nat.le_trans value.le (List.drop_sublist 1 input).length_le⟩
  else
    let key ← readNode handles .flow names input
    have shorter := key.shorter
    let value ← readValue handles .flow ends key.value.2 key.rest
    return ⟨(.mapping none [(key.value.1, value.value.1)], value.value.2), value.rest,
      Nat.le_trans value.le (Nat.le_of_lt shorter)⟩
termination_by 4 * input.length + 3

/-- The items in brackets up to the closing one. -/
def readItems (handles : Handles) ( isFirst : Bool) (names : Names) (input : List Token) :
    Option (Taken (List Node × Names) input) :=
  match input with
  | .closeBracket :: rest => some (.head ([], names) .closeBracket rest)
  | input => do
      let start ← skipComma isFirst input
      have startLe := start.le
      match first : start.rest with
      | .closeBracket :: rest =>
          return ⟨([], names), rest, Text.length_lt_of_eq_cons first startLe⟩
      | .key :: rest =>
          have below : rest.length < input.length := Text.length_lt_of_eq_cons first startLe
          let item ← readPair handles names rest
          have shorter : item.rest.length < input.length := Nat.lt_of_le_of_lt item.le below
          let more ← readItems handles false item.value.2 item.rest
          return (more.map fun (items, names) => (item.value.1 :: items, names)).widen
            (Nat.le_of_lt shorter)
      | rest =>
          have le : rest.length ≤ input.length := first ▸ startLe
          let item ← readNode handles .flow names rest
          have shorter : item.rest.length < input.length := Nat.lt_of_lt_of_le item.shorter le
          let more ← readItems handles false item.value.2 item.rest
          return (more.map fun (items, names) => (item.value.1 :: items, names)).widen
            (Nat.le_of_lt shorter)
termination_by 4 * input.length + 3

/-- The entries in braces up to the closing one. A node without a sign is a key without a value. -/
def readEntries (handles : Handles) ( isFirst : Bool) (names : Names) (input : List Token) :
    Option (Taken (List (Node × Node) × Names) input) :=
  let ends := endsPart Token.isCloseBrace
  match input with
  | .closeBrace :: rest => some (.head ([], names) .closeBrace rest)
  | input => do
      let start ← skipComma isFirst input
      have startLe := start.le
      match first : start.rest with
      | .closeBrace :: rest =>
          return ⟨([], names), rest, Text.length_lt_of_eq_cons first startLe⟩
      | .key :: rest =>
          have below : rest.length < input.length := Text.length_lt_of_eq_cons first startLe
          let key ← readContent handles .flow (fun token => token.isValue || ends token) names rest
          have keyLe := key.le
          let value ← readValue handles .flow ends key.value.2 key.rest
          have shorter : value.rest.length < input.length :=
            Nat.lt_of_le_of_lt (Nat.le_trans value.le keyLe) below
          let more ← readEntries handles false value.value.2 value.rest
          return (more.map fun (entries, names) =>
            ((key.value.1, value.value.1) :: entries, names)).widen (Nat.le_of_lt shorter)
      | rest =>
          have le : rest.length ≤ input.length := first ▸ startLe
          let key ← readNode handles .flow names rest
          have shorter : key.rest.length < input.length := Nat.lt_of_lt_of_le key.shorter le
          let more ← readEntries handles false key.value.2 key.rest
          return (more.map fun (entries, names) =>
            ((key.value.1, .empty none) :: entries, names)).widen (Nat.le_of_lt shorter)
termination_by 4 * input.length + 3
end

/-! ## Documents -/

/-- The directives in front of a document. -/
structure Head where
  hasVersion : Bool
  handles : Handles

/-- Whether documents of a version can be read. -/
def isKnownVersion (major minor : Nat) : Bool := major == 1 && (minor == 1 || minor == 2)

/-- The head with one more directive. A version may be given once, and a handle only once. -/
def Head.add (head : Head) : Directive → Option Head
  | .version major minor =>
      if head.hasVersion || !isKnownVersion major minor then none
      else some { head with hasVersion := true }
  | .handle name start =>
      if head.handles.any (·.1 == name) then none
      else some { head with handles := head.handles ++ [(name, start)] }

/-- The handles of a document with directives in front of three dashes, and the tokens behind
these. -/
def readHead (head : Head) : List Token → Option (Handles × List Token)
  | .directive directive :: rest => do readHead (← head.add directive) rest
  | .documentStart :: rest => some (head.handles ++ standardHandles, rest)
  | _ => none

/-- The node of a document that starts with three dashes or without them. Marks that end documents
may follow. -/
def readDocument (tokens : List Token) : Option Node := do
  let hasHead := tokens.head?.any fun token => token.isOutside && !token.isDocumentEnd
  let (handles, content) ← if hasHead then readHead ⟨false, []⟩ tokens
    else some (standardHandles, tokens)
  let (node, behind) ←
    if hasHead && content.head?.all Token.isOutside then some (.empty none, content)
    else do
      let node ← readNode handles .block [] content
      pure (node.value.1, node.rest)
  if (behind.dropWhile Token.isDocumentEnd).isEmpty then return node else none

end RecordQuery.Yaml
