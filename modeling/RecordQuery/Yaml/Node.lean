import RecordQuery.Yaml.Scalar

/-!
# Nodes of YAML

A document is one node: a scalar, a sequence or a mapping, or an alias for a node with an anchor.
As data a mapping is an object, so its keys have to be scalars; the text of a key counts as it is
written. Aliases may be followed only so often, and nodes be nested only so deep.
-/

namespace RecordQuery.Yaml

/-- A node. Anchors and aliases are known by numbers. -/
inductive Node where
  | alias (number : Nat)
  | anchored (number : Nat) (content : Node)
  | scalar (content : Scalar)
  | sequence (tag : Option Tag) (items : List Node)
  | mapping (tag : Option Tag) (entries : List (Node × Node))

namespace Node

/-- The node of no text at all. -/
def empty (tag : Option Tag) : Node := .scalar ⟨true, tag, []⟩

/-! ## Anchors -/

mutual
/-- The number of parts: a scalar or an alias is one, and what holds others has a start and an
end. -/
def size : Node → Nat
  | .alias _ | .scalar _ => 1
  | .anchored _ content => size content
  | .sequence _ items => itemsSize items + 2
  | .mapping _ entries => entriesSize entries + 2

def itemsSize : List Node → Nat
  | [] => 0
  | item :: rest => size item + itemsSize rest

def entriesSize : List (Node × Node) → Nat
  | [] => 0
  | (key, value) :: rest => size key + size value + entriesSize rest
end

mutual
/-- The nodes with anchors, in the order in which they start. -/
def anchors : Node → List (Nat × Node)
  | .alias _ | .scalar _ => []
  | .anchored number content => (number, content) :: anchors content
  | .sequence _ items => itemAnchors items
  | .mapping _ entries => entryAnchors entries

def itemAnchors : List Node → List (Nat × Node)
  | [] => []
  | item :: rest => anchors item ++ itemAnchors rest

def entryAnchors : List (Node × Node) → List (Nat × Node)
  | [] => []
  | (key, value) :: rest => anchors key ++ anchors value ++ entryAnchors rest
end

/-! ## Values -/

/-- How deep sequences and mappings may be nested. -/
def maxDepth : Nat := 128

/-- How often aliases may be followed for each part of a document. -/
def maxRepeats : Nat := 100

/-- Reading that may follow so many aliases more. -/
abbrev Reading := StateT Nat Option

/-- The node itself that an alias or an anchor stands in front of, where the nodes with anchors are
given, the last one first. -/
def follow (anchors : List (Nat × Node)) : Node → Reading Node
  | .alias number => do
      match ← get with
      | 0 => failure
      | left + 1 =>
          set left
          anchors.lookup number
  | .anchored _ content => return content
  | node => return node

/-- The text of a key. -/
def keyText (anchors : List (Nat × Node)) (key : Node) : Reading String := do
  match ← follow anchors key with
  | .scalar content => return String.ofList content.text
  | _ => failure

/-- The value of a node that may be nested to a depth. -/
def valueAt (anchors : List (Nat × Node)) : (depth : Nat) → Node → Reading Value
  | 0, node => do
      match ← follow anchors node with
      | .scalar content => content.value
      | _ => failure
  | depth + 1, node => do
      match ← follow anchors node with
      | .scalar content => content.value
      | .sequence tag items =>
          if tag.any (·.isOwn) then failure
          return .array (← items.mapM (valueAt anchors depth))
      | .mapping tag entries =>
          if tag.any (·.isOwn) then failure
          let writes ← entries.mapM fun (key, value) => do
            return (← keyText anchors key, ← valueAt anchors depth value)
          return .object (Fields.ofWrites writes)
      | _ => failure

/-- The value of a document. Of nodes with one number the last one counts. -/
def value (node : Node) : Option Value :=
  (valueAt node.anchors.reverse maxDepth node).run' (maxRepeats * node.size)

end Node

end RecordQuery.Yaml
