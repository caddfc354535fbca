import CodeAudit.Yaml.Merge
import CodeAudit.Yaml.Plain

/-!
# Loading Documents

The value of a document.

Loading has two parts. First the document is checked: every scalar has to spell what its
tag says, keys have to be scalars, and a collection has to be of the kind its tag asks
for. The check goes level by level, so that of several mistakes the one nearest to the
root is reported, and on one level the first one. On its way it merges the mappings. Then the
value is built, which cannot fail any more.

What has a value is a `Part` of the document. This is a node, or one of the pairs in a list of
pairs, which is no node of its own. A part takes its `Shape` from the parts directly in it, and its
value is put together from theirs.

A collection that contains itself has no value that could be built from its parts, since it would
have to be among them. So its values are built one after the other. The first one has an outline
only, in which the collection stands for itself by name, and no content. In the content of each
further one, the collections that contain themselves have the values that were built before. Their
number is how far down such a collection can be followed.

## Main definitions

* `Yaml.scalarValue`: The value of a node that is a scalar.
* `Yaml.survey`: The check.
* `Yaml.Part`: A part of a document that has a value.
* `Yaml.shape`: What a part is made of.
* `Yaml.outline`: How a part is written out.
* `Yaml.build`: The value of a part.
* `Yaml.knownTo`: The values of collections that contain themselves.
* `Yaml.load`: The value of a text.
* `Yaml.loadParts`: The value of a text that comes in parts.
-/

namespace CodeAudit

namespace Yaml

variable {ε : Type}

/-- The text of a node where a scalar is asked for. A mapping gives the scalar under the
    sign for its value. -/
def scalarText (nodes : Nodes) : Nat → Node → Scan ε String
  | 0, _ => .ok ""
  | fuel + 1, n =>
    let n := nodes.target n
    let wrong : Scan ε String :=
      troubleAt ("expected a scalar node, but found " ++ n.kindName) n.place
    match n with
    | .scalar _ _ text => .ok text
    | .mapping _ _ _ =>
      -- The mapping may say under that sign what it is worth, and so on to any depth.
      match (nodes.entries n).find? fun p => nodes.tag p.1 == coreTag "value" with
      | some (_, v) => scalarText nodes fuel v
      | none => wrong
    | _ => wrong

/-- The kinds of collections a tag can ask for. -/
inductive Plan
  | list
  | mapping
  | set
  | orderedMap
  | pairs
deriving DecidableEq, Repr

/-- The kind of collection a tag asks for. -/
def Plan.ofTag? (tag : String) : Option Plan :=
  if tag == coreTag "seq" then some .list
  else if tag == coreTag "map" then some .mapping
  else if tag == coreTag "set" then some .set
  else if tag == coreTag "omap" then some .orderedMap
  else if tag == coreTag "pairs" then some .pairs
  else none

/-- The value of a node that is a scalar by its tag, or nothing if the tag asks for a
    collection. -/
def scalarValue (nodes : Nodes) (fuel : Nat) (n : Node) : Scan ε (Option Value) := do
  let place := (nodes.target n).place
  let text := scalarText nodes fuel n
  let tag := nodes.tag n
  if tag == coreTag "str" then return some (.text (← text))
  else if tag == coreTag "null" then
    -- The text is asked for although it does not matter: the node may be no scalar.
    let _ ← text
    return some .null
  else if tag == coreTag "bool" then return some (← readBool (← text))
  else if tag == coreTag "int" then return some (← readInt (← text))
  else if tag == coreTag "float" then return some (← readFloat (← text))
  else if tag == coreTag "timestamp" then return some (← readTime (← text))
  else if tag == coreTag "binary" then return some (← readBytes place (← text))
  else if (Plan.ofTag? tag).isSome then return none
  else
    troubleAt ("could not determine a constructor for the tag " ++ CodeAudit.quoted tag) place

/-- What tells a collection from all others: its kind and the place where it starts, and for a pair
    that of its list and its number there. -/
structure Identity where
  kind : Collection
  mark : Mark
  index : Nat
deriving DecidableEq

/-- What tells a node from all others, if it is a collection. -/
def Nodes.identity? (nodes : Nodes) (n : Node) : Option Identity :=
  match nodes.target n with
  | .sequence mark _ _ => some ⟨.list, mark, 0⟩
  | .mapping mark _ _ => some ⟨.mapping, mark, 0⟩
  | _ => none

/-- A step of the check of a collection. -/
inductive Step (ε : Type)
  /-- A node is looked at. -/
  | visit (n : Node)
  /-- A node is looked at as a key of a mapping. -/
  | visitKey (mapping n : Node)
  /-- The collection is not what its tag asks for. -/
  | stop (e : LoadError ε)

/-- A failure as a step. -/
def Step.ofError : Scan ε Unit → List (Step ε)
  | .error e => [.stop e]
  | .ok _ => []

/-- The steps for an item of a list of pairs. -/
def pairSteps (nodes : Nodes) (context : String) (n item : Node) : List (Step ε) :=
  let sub := nodes.target item
  let wrong (problem : String) : List (Step ε) :=
    Step.ofError (troubleIn context n.place problem sub.place)
  match sub with
  | .mapping _ _ _ =>
    match nodes.entries sub with
    -- The pair is looked at in its two parts. The mapping itself is never a value.
    | [(k, v)] => [.visit k, .visit v]
    | entries =>
      wrong ("expected a single mapping item, but found " ++ toString entries.length ++ " items")
  | _ => wrong ("expected a mapping of length 1, but found " ++ sub.kindName)

/-- What a message calls the construction of a list of pairs. -/
def Plan.context : Plan → String
  | .orderedMap => "while constructing an ordered map"
  | _ => "while constructing pairs"

/-- The steps for a collection, and the nodes once it is merged. -/
def steps (nodes : Nodes) (bound : Nat) (n : Node) : List (Step ε) × Nodes :=
  match Plan.ofTag? (nodes.tag n), n with
  | none, _ => ([], nodes)
  | some .list, .sequence _ _ items => (items.map Step.visit, nodes)
  | some .list, n =>
    (Step.ofError (troubleAt ("expected a sequence node, but found " ++ n.kindName) n.place), nodes)
  | some .orderedMap, .sequence _ _ items =>
    (items.flatMap (pairSteps nodes Plan.orderedMap.context n), nodes)
  | some .pairs, .sequence _ _ items =>
    (items.flatMap (pairSteps nodes Plan.pairs.context n), nodes)
  | some .orderedMap, n =>
    (Step.ofError (troubleIn Plan.orderedMap.context n.place
      ("expected a sequence, but found " ++ n.kindName) n.place), nodes)
  | some .pairs, n =>
    (Step.ofError (troubleIn Plan.pairs.context n.place
      ("expected a sequence, but found " ++ n.kindName) n.place), nodes)
  | some _, .mapping _ _ _ =>
    -- A mapping is looked at with the entries that it takes over, which may fail too.
    match nodes.merge bound n with
    | .error e => ([.stop e], nodes)
    | .ok nodes => ((nodes.entries n).flatMap fun p => [.visitKey n p.1, .visit p.2], nodes)
  | some _, n =>
    (Step.ofError (troubleAt ("expected a mapping node, but found " ++ n.kindName) n.place), nodes)

/-- Takes the steps of a collection. Collections are put off to a later level, each of them only
    once. -/
def takeSteps (nodes : Nodes) (bound : Nat) :
    List (Step ε) → List Node → List Identity → Scan ε (List Node × List Identity)
  | [], later, seen => .ok (later.reverse, seen)
  | .stop e :: _, _, _ => .error e
  | .visitKey mapping n :: rest, later, seen =>
    match scalarValue nodes bound n with
    | .error e => .error e
    | .ok (some _) => takeSteps nodes bound rest later seen
    -- A collection has no value that could be compared, so it cannot be a key.
    | .ok none =>
      troubleIn "while constructing a mapping" mapping.place "found unhashable key"
        (nodes.target n).place
  | .visit n :: rest, later, seen =>
    match scalarValue nodes bound n with
    | .error e => .error e
    | .ok (some _) => takeSteps nodes bound rest later seen
    | .ok none =>
      let i := nodes.identity? n
      -- Where a collection has been met before, above itself or beside, it is not looked at again.
      if i.any seen.contains then takeSteps nodes bound rest later seen
      else takeSteps nodes bound rest (nodes.target n :: later) (i.toList ++ seen)

/-- The check of the collections in a queue and of everything below them, which gives the nodes with
    all mappings merged. -/
def survey (bound : Nat) : Nat → Nodes → List Node → List Identity → Scan ε Nodes
  | 0, nodes, _, _ => .ok nodes
  | _ + 1, nodes, [], _ => .ok nodes
  | fuel + 1, nodes, n :: rest, seen =>
    let (todo, nodes) := steps nodes bound n
    match takeSteps nodes bound todo [] seen with
    | .error e => .error e
    -- What was put off comes behind the collections of this level.
    | .ok (later, seen) => survey bound fuel nodes (rest ++ later) seen

/-- A part of a document that has a value: a node, or a pair in a list of pairs that starts at a
    place. -/
inductive Part
  | node (n : Node)
  | pair (list : Mark) (index : Nat) (first second : Node)

/-- What tells a part from all others, if it is a collection. -/
def Part.identity? (nodes : Nodes) : Part → Option Identity
  | .pair list index _ _ => some ⟨.pair, list, index⟩
  | .node n => nodes.identity? n

/-- What a part is made of: it is a whole, or a collection of other parts. -/
inductive Shape
  | whole (v : Value)
  | list (items : List Part)
  | pair (first second : Part)
  | set (members : List Part)
  | mapping (entries : List (Part × Part))

namespace Shape

/-- The parts directly in a part. -/
def parts : Shape → List Part
  | .whole _ => []
  | .list items => items
  | .pair first second => [first, second]
  | .set members => members
  | .mapping entries => entries.flatMap fun p => [p.1, p.2]

/-- The value of a part, put together from the values of the parts directly in it. -/
def assemble (value : Part → Value) : Shape → Value
  | .whole v => v
  | .list items => .list (items.map value)
  | .pair first second => .pair (value first) (value second)
  -- Members and keys that are the same come up once.
  | .set members =>
    .set ((members.foldl (fun built p => Value.put (value p) .null built) []).map Prod.fst)
  | .mapping entries =>
    .mapping (entries.foldl (fun built p => Value.put (value p.1) (value p.2) built) [])

end Shape

/-- The pairs of a list of mappings with one entry each, which starts at a place, from a number
    on. -/
def pairParts (nodes : Nodes) (list : Mark) : Nat → List Node → List Part
  | _, [] => []
  | index, n :: rest =>
    match nodes.entries n with
    | (k, v) :: _ => .pair list index k v :: pairParts nodes list (index + 1) rest
    -- The check has ruled this out.
    | _ => pairParts nodes list (index + 1) rest

/-- What a part is made of that has been checked. -/
def shape (nodes : Nodes) (bound : Nat) : Part → Shape
  | .pair _ _ first second => .pair (.node first) (.node second)
  | .node n =>
    let n := nodes.target n
    let value : Scan Empty (Option Value) := scalarValue nodes bound n
    match value with
    | .ok (some v) => .whole v
    | .error _ => .whole .null
    | .ok none =>
      match Plan.ofTag? (nodes.tag n), n with
      | some .list, .sequence _ _ items => .list (items.map .node)
      | some .orderedMap, .sequence mark _ items => .list (pairParts nodes mark 0 items)
      | some .pairs, .sequence mark _ items => .list (pairParts nodes mark 0 items)
      | some .set, _ => .set ((nodes.entries n).map fun p => .node p.1)
      | _, _ => .mapping ((nodes.entries n).map fun p => (.node p.1, .node p.2))

/-- The collections among parts and in all that is in them, each once, in front of those found so
    far. -/
def collections (nodes : Nodes) (bound : Nat) :
    Nat → List Part → List (Identity × Part) → List (Identity × Part)
  | 0, _, found => found
  | _ + 1, [], found => found
  | fuel + 1, p :: rest, found =>
    match p.identity? nodes with
    | none => collections nodes bound fuel rest found
    | some i =>
      if (found.lookup i).isSome then collections nodes bound fuel rest found
      else collections nodes bound fuel ((shape nodes bound p).parts ++ rest) ((i, p) :: found)

/-- A collection contains itself. -/
def containsItself (nodes : Nodes) (bound : Nat) (i : Identity) (p : Part) : Bool :=
  ((collections nodes bound bound (shape nodes bound p).parts []).lookup i).isSome

/-- How a part is written out inside of the collections around it. -/
def outline (nodes : Nodes) (bound : Nat) : Nat → List Identity → Part → Value
  | 0, _, _ => .null
  | fuel + 1, around, p =>
    match p.identity? nodes with
    | none => (shape nodes bound p).assemble (outline nodes bound fuel around)
    | some i =>
      if around.contains i then .again i.kind
      else (shape nodes bound p).assemble (outline nodes bound fuel (i :: around))

/-- A collection that contains itself, with its outline. -/
structure Knot where
  identity : Identity
  part : Part
  outline : Value

/-- The collections that contain themselves, in a node and in all nodes that are named. -/
def knotsOf (nodes : Nodes) (bound : Nat) (n : Node) : List Knot :=
  let parts := (n :: nodes.named.map Prod.snd).map Part.node
  ((collections nodes bound bound parts []).filter fun c =>
    containsItself nodes bound c.1 c.2).map fun c =>
      ⟨c.1, c.2, outline nodes bound bound [] c.2⟩

/-- The values that are known, those of named nodes and those of collections that contain
    themselves. -/
structure Known where
  named : List (String × Value)
  knots : List (Identity × Value)

/-- The value of a part if it is known. -/
def Known.value? (nodes : Nodes) (known : Known) (p : Part) : Option Value :=
  match (p.identity? nodes).bind fun i => known.knots.lookup i with
  | some v => some v
  | none =>
    match p with
    | .node (.alias name) => known.named.lookup name
    | _ => none

/-- The value of a part, put together from values that are known. -/
def build (nodes : Nodes) (bound : Nat) (known : Known) : Nat → Part → Value
  | 0, _ => .null
  | fuel + 1, p =>
    match known.value? nodes p with
    | some v => v
    | none => (shape nodes bound p).assemble (build nodes bound known fuel)

/-- The values of collections that contain themselves, and those of named nodes that follow from
    them. -/
def knownFrom (nodes : Nodes) (bound : Nat) (knots : List (Identity × Value)) : Known :=
  -- A node is complete before those behind it begin, so its value is known to them.
  ⟨nodes.named.foldl (fun named p =>
    (p.1, build nodes bound ⟨named, knots⟩ bound (.node p.2)) :: named) [], knots⟩

/-- The values that are known where collections that contain themselves are followed down to a
    depth. -/
def knownTo (nodes : Nodes) (bound : Nat) (knots : List Knot) : Nat → Known
  | 0 => knownFrom nodes bound
    (knots.map fun k => (k.identity, .knot k.outline (.again k.identity.kind)))
  | depth + 1 =>
    -- Each of them holds the others, and itself, as they are one step further up.
    let known := knownTo nodes bound knots depth
    knownFrom nodes bound (knots.map fun k =>
      (k.identity, .knot k.outline ((shape nodes bound k.part).assemble
        (build nodes bound known bound))))

/-- How far down collections that contain themselves are followed. In a rule or a configuration
    nothing is read that lies deeper. -/
def followedDepth : Nat := 4

/-- The value of a document, after its check. -/
def Document.value (bound : Nat) (d : Document) : Scan ε Value := do
  let nodes : Nodes := ⟨d.named, [], []⟩
  match ← scalarValue nodes bound d.root with
  | some v => return v
  | none =>
    let nodes ← survey bound bound nodes [d.root] (nodes.identity? d.root).toList
    let known :=
      if d.tangled then knownTo nodes bound (knotsOf nodes bound d.root) followedDepth
      else knownFrom nodes bound []
    return build nodes bound known bound (.node d.root)

/-- The value of the text of a supply. A text without a document has no value. -/
def loadFrom (source : String) (text : Supply ε) : Scan ε Value := do
  match ← Document.read source text with
  | none => return .null
  -- There are fewer nodes than characters, but entries that are taken over come up several times.
  | some d => d.value (100 * text.chars.length + 100)

/-- The value of a text that is there as a whole. -/
def load (source : String) (cs : List Char) : Scan Empty Value :=
  loadFrom source (.whole source cs)

/-- The value of a text that comes in parts, and of the failure behind it if it does not end
    there. -/
def loadParts (source : String) (cs : List Char) (failure : Option ε) : Scan ε Value :=
  loadFrom source (.inParts source cs failure)

end Yaml

end CodeAudit
