import CodeAudit.Yaml.Node

/-!
# Merged Mappings

Mappings that take over the entries of other mappings.

A merge key asks for the entries of a mapping, or of several, and these are put in front of the
entries that the mapping has of its own. So own entries win over those taken over, and those of an
earlier mapping over those of a later one.

Merging changes the nodes of a document. A mapping that has been merged has other entries from then
on, for whatever comes upon it later, and it has no merge keys any more. Also while it is worked on
a merge key goes before its mapping is looked into. This is what becomes of a mapping that takes
itself over: its entries without that key are taken. A key that is the sign for a value becomes an
ordinary text.

So the nodes of a document are kept in `Nodes` together with what has been changed, and merging a
mapping gives the nodes as they are afterwards.

## Main definitions

* `Yaml.Nodes`: The nodes of a document with their changes.
* `Yaml.Nodes.target`: The node that an alias stands for.
* `Yaml.Nodes.tag`, `Yaml.Nodes.entries`: The tag and the entries of a node.
* `Yaml.Nodes.merge`: The nodes once a mapping is merged.
-/

namespace CodeAudit

namespace Yaml

/-- The entries of a node. -/
abbrev NodeEntries := List (Node × Node)

namespace Node

/-- The place where a node starts. -/
def place (n : Node) : Mark :=
  n.mark.getD ⟨"", 0, 0⟩

/-- The tag that a node was given. -/
def tag : Node → String
  | .scalar _ tag _ => tag
  | .sequence _ tag _ => tag
  | .mapping _ tag _ => tag
  | .alias _ => ""

/-- The entries that a mapping was given. -/
def entries : Node → NodeEntries
  | .mapping _ _ entries => entries
  | _ => []

/-- What a message calls the kind of a node. -/
def kindName : Node → String
  | .scalar _ _ _ => "scalar"
  | .sequence _ _ _ => "sequence"
  | .mapping _ _ _ => "mapping"
  | .alias _ => "alias"

end Node

/-- The nodes of a document: those that are named, the entries of the mappings that have been
    changed, the latest first, and the keys that have become ordinary texts. A node is known by the
    place where it starts. -/
structure Nodes where
  named : Named
  changed : List (Mark × NodeEntries)
  plainKeys : List Mark

namespace Nodes

/-- The node itself, or the one that an alias stands for. -/
def target (nodes : Nodes) : Node → Node
  | .alias name => (nodes.named.lookup name).getD (emptyScalar ⟨"", 0, 0⟩)
  | n => n

/-- The tag of a node. -/
def tag (nodes : Nodes) (n : Node) : String :=
  let n := nodes.target n
  if n.tag == coreTag "value" && nodes.plainKeys.contains n.place then coreTag "str" else n.tag

/-- The entries of a mapping. -/
def entries (nodes : Nodes) (n : Node) : NodeEntries :=
  let n := nodes.target n
  (nodes.changed.lookup n.place).getD n.entries

/-- The nodes with other entries in a mapping. -/
def setEntries (nodes : Nodes) (n : Node) (entries : NodeEntries) : Nodes :=
  { nodes with changed := ((nodes.target n).place, entries) :: nodes.changed }

/-- The nodes where a key is an ordinary text. -/
def plainKey (nodes : Nodes) (n : Node) : Nodes :=
  { nodes with plainKeys := (nodes.target n).place :: nodes.plainKeys }

variable {ε : Type}

/-- The failure of something that is taken over and is not a mapping. -/
def notMergeable {α : Type} (context : Node) (expected : String) (n : Node) : Scan ε α :=
  troubleIn "while constructing a mapping" context.place
    ("expected " ++ expected ++ " for merging, but found " ++ n.kindName) n.place

mutual

/-- The nodes once the entries of a mapping from a number on are looked at, with the entries that
    have been taken over so far. -/
def mergeFrom : Nat → Nodes → Node → Nat → NodeEntries → Scan ε Nodes
  | 0, nodes, _, _, _ => .ok nodes
  | fuel + 1, nodes, n, index, taken =>
    let entries := nodes.entries n
    match entries[index]? with
    | none =>
      -- What is taken over stands in front, so that own entries overwrite it.
      if taken.isEmpty then .ok nodes else .ok (nodes.setEntries n (taken ++ entries))
    | some (k, v) =>
      if nodes.tag k == coreTag "merge" then do
        -- The next entry takes the number of the key that goes.
        let (more, nodes) ← takeOver fuel (nodes.setEntries n (entries.eraseIdx index)) n v
        mergeFrom fuel nodes n index (taken ++ more)
      else if nodes.tag k == coreTag "value" then
        mergeFrom fuel (nodes.plainKey k) n (index + 1) taken
      else mergeFrom fuel nodes n (index + 1) taken

/-- The entries that a mapping takes over from a node, and the nodes afterwards. -/
def takeOver : Nat → Nodes → Node → Node → Scan ε (NodeEntries × Nodes)
  | 0, nodes, _, _ => .ok ([], nodes)
  | fuel + 1, nodes, n, v =>
    match nodes.target v with
    | .mapping mark tag entries => do
      let source := Node.mapping mark tag entries
      let nodes ← mergeFrom fuel nodes source 0 []
      return (nodes.entries source, nodes)
    | .sequence _ _ items => takeOverAll fuel nodes n items
    | source => notMergeable n "a mapping or list of mappings" source

/-- The entries that a mapping takes over from several nodes, those of the last one first. -/
def takeOverAll : Nat → Nodes → Node → List Node → Scan ε (NodeEntries × Nodes)
  | 0, nodes, _, _ => .ok ([], nodes)
  | _ + 1, nodes, _, [] => .ok ([], nodes)
  | fuel + 1, nodes, n, item :: rest =>
    match nodes.target item with
    | .mapping mark tag entries => do
      let source := Node.mapping mark tag entries
      let nodes ← mergeFrom fuel nodes source 0 []
      let found := nodes.entries source
      let (more, nodes) ← takeOverAll fuel nodes n rest
      -- The later mappings stand in front, so that the earlier ones overwrite them.
      return (more ++ found, nodes)
    | source => notMergeable n "a mapping" source

end

/-- The nodes once a mapping is merged. -/
def merge (bound : Nat) (nodes : Nodes) (n : Node) : Scan ε Nodes :=
  mergeFrom bound nodes n 0 []

end Nodes

end Yaml

end CodeAudit
