import CodeAudit.Yaml.Resolve
import CodeAudit.Yaml.TokenStream

/-!
# Nodes

The tree of a document.

A node is a scalar, a sequence or a mapping, each with its tag and the place where it
starts. A node can be named by an anchor, and an alias then stands for the node of that
name. The alias is kept as an alias, and the named nodes are kept beside the tree, so
that a node that contains itself is still a finite tree.

A document is read by recursive descent over its tokens. Every function takes a bound on
the nesting that the text cannot reach, so that a document may be nested to any depth.

## Main definitions

* `Yaml.Node`: A node of a document.
* `Yaml.Document`: The root of a document and its named nodes.
* `Yaml.Document.read`: The document of a text.
-/

namespace CodeAudit

namespace Yaml

/-- A node of a document. -/
inductive Node
  | scalar (mark : Mark) (tag : String) (text : String)
  | sequence (mark : Mark) (tag : String) (items : List Node)
  | mapping (mark : Mark) (tag : String) (entries : List (Node × Node))
  | alias (name : String)
deriving Inhabited, Repr

namespace Node

/-- The place where a node starts. An alias has none of its own. -/
def mark : Node → Option Mark
  | .scalar mark _ _ => some mark
  | .sequence mark _ _ => some mark
  | .mapping mark _ _ => some mark
  | .alias _ => none

end Node

/-- The nodes that anchors name. -/
abbrev Named := List (String × Node)

/-- The root of a document and its named nodes, a node before those that follow it. A document in
    which a node contains itself is tangled. -/
structure Document where
  root : Node
  named : Named
  tangled : Bool

/-- What is known while a document is read: the tokens to come, what the handles of tags
    stand for, the anchors that have been seen with their places, the named nodes that
    are complete, the latest first, and whether an alias has stood for a node that was not. -/
structure Reading (ε : Type) where
  tokens : TokenStream ε
  handles : List (String × String)
  anchors : List (String × Mark)
  named : Named
  tangled : Bool

/-- A step in reading a document. -/
abbrev Read (ε : Type) := StateT (Reading ε) (Except (LoadError ε))

variable {ε : Type}

namespace Read

/-- Ends the reading with a failure. -/
def fail {α : Type} (e : Scan ε α) : Read ε α :=
  fun s => e.map fun a => (a, s)

/-- The next token. -/
def peek : Read ε Token := fun s => do
  let (t, tokens) ← s.tokens.peek
  return (t, { s with tokens })

/-- Takes the next token. -/
def next : Read ε Token := do
  let t ← peek
  modify fun s => { s with tokens := s.tokens.next }
  return t

/-- The next token is of one of the kinds a test allows. -/
def at? (test : TokenKind → Bool) : Read ε Bool := do
  return test (← peek).kind

end Read

/-- The handles of tags that are known without a directive. -/
def commonHandles : List (String × String) :=
  [("!", "!"), ("!!", coreTag "")]

/-- The properties in front of a node: its anchor, its tag, and the place where they
    start. -/
structure Properties where
  anchor : Option String
  tag : Option (Option String × String × Mark)
  start : Option Mark

/-- The anchor and the tag in front of a node, in either order. -/
def readProperties : Read ε Properties := do
  let t ← Read.peek
  match t.kind with
  | .anchor name =>
    let _ ← Read.next
    let u ← Read.peek
    match u.kind with
    | .tag handle suffix =>
      let _ ← Read.next
      return ⟨some name, some (handle, suffix, u.start), some t.start⟩
    | _ => return ⟨some name, none, some t.start⟩
  | .tag handle suffix =>
    let _ ← Read.next
    let u ← Read.peek
    match u.kind with
    | .anchor name =>
      let _ ← Read.next
      return ⟨some name, some (handle, suffix, t.start), some t.start⟩
    | _ => return ⟨none, some (handle, suffix, t.start), some t.start⟩
  | _ => return ⟨none, none, none⟩

/-- The full text of a tag, its handle replaced by what it stands for. -/
def expandTag (start : Mark) : Option (Option String × String × Mark) → Read ε (Option String)
  | none => return none
  | some (none, suffix, _) => return some suffix
  | some (some handle, suffix, mark) => do
    match (← get).handles.lookup handle with
    | some text => return some (text ++ suffix)
    | none =>
      Read.fail (troubleIn "while parsing a node" start
        ("found undefined tag handle " ++ quoted handle) mark)

/-- Notes an anchor, which may be used only once. -/
def noteAnchor (anchor : Option String) (mark : Mark) : Read ε Unit := do
  match anchor with
  | none => return ()
  | some name =>
    match (← get).anchors.lookup name with
    | some first =>
      Read.fail (troubleIn ("found duplicate anchor " ++ quoted name ++ "; first occurrence")
        first "second occurrence" mark)
    | none => modify fun s => { s with anchors := (name, mark) :: s.anchors }

/-- Keeps a complete node under its anchor. -/
def keep (anchor : Option String) (node : Node) : Read ε Node := do
  match anchor with
  | none => return node
  | some name =>
    modify fun s => { s with named := (name, node) :: s.named }
    return node

/-- An alias, which must stand for a node that has begun. If that node is not complete, the alias
    stands in the node. -/
def readAlias (name : String) (mark : Mark) : Read ε Node := do
  if ((← get).anchors.lookup name).isSome then
    modify fun s => { s with tangled := s.tangled || (s.named.lookup name).isNone }
    return .alias name
  else Read.fail (troubleAt ("found undefined alias " ++ quoted name) mark)

/-- A tag says nothing about the kind of a value. -/
def isOpenTag (tag : Option String) : Bool :=
  tag == none || tag == some "!"

/-- The tag of a collection. -/
def collectionTag (kind : String) (tag : Option String) : String :=
  if isOpenTag tag then coreTag kind else tag.getD ""

/-- The tag of a scalar. A tag that is an exclamation mark alone has the scalar taken for
    a plain one. -/
def scalarTag (tag : Option String) (plain : Bool) (text : String) : String :=
  match tag with
  | none => if plain then implicitTag text else coreTag "str"
  | some tag => if tag == "!" then implicitTag text else tag

/-- A scalar without text, which counts as nothing. -/
def emptyScalar (mark : Mark) : Node :=
  .scalar mark (coreTag "null") ""

/-- The token ends an entry of a block sequence. -/
def endsBlockEntry : TokenKind → Bool
  | .blockEntry | .blockEnd => true
  | _ => false

/-- The token ends an entry of a block mapping. -/
def endsPairPart : TokenKind → Bool
  | .key | .value | .blockEnd => true
  | _ => false

/-- The token ends an entry of a block sequence that is not indented. -/
def endsFlatEntry : TokenKind → Bool
  | .blockEntry | .key | .value | .blockEnd => true
  | _ => false

/-- The token ends a key in a flow collection that a token closes. -/
def endsFlowKey (close : TokenKind) : TokenKind → Bool
  | .value | .flowEntry => true
  | k => k == close

/-- The token ends a value in a flow collection that a token closes. -/
def endsFlowValue (close : TokenKind) : TokenKind → Bool
  | .flowEntry => true
  | k => k == close

/-- The failure of a flow collection whose entries are not separated. -/
def unseparated {α : Type} (what : String) (start : Mark) (close : Char) (t : Token) : Read ε α :=
  Read.fail (troubleIn ("while parsing a flow " ++ what) start
    ("expected ',' or '" ++ close.toString ++ "', but got " ++ t.shown) t.start)

/-- Passes over the comma in front of an entry that is not the first one. -/
def readComma (what : String) (start : Mark) (close : Char) (first : Bool) : Read ε Unit := do
  if first then return ()
  else
    let t ← Read.peek
    if t.kind == .flowEntry then
      let _ ← Read.next
      return ()
    else unseparated what start close t

/-- The failure of a block collection that does not end where it should. -/
def unended {α : Type} (context : String) (start : Mark) (t : Token) : Read ε α :=
  Read.fail (troubleIn context start ("expected <block end>, but found " ++ t.shown) t.start)

mutual

/-- A node. In block context it may be a block collection, and where `flat` holds it may be
    a sequence whose entries are not indented. -/
def readNode : Nat → Bool → Bool → Read ε Node
  | 0, _, _ => do return emptyScalar (← Read.peek).start
  | fuel + 1, block, flat => do
    -- A node starts where its properties do, or where its content does if it has none.
    let t ← Read.peek
    match t.kind with
    | .alias name =>
      let _ ← Read.next
      readAlias name t.start
    | _ =>
      let props ← readProperties
      let tag ← expandTag (props.start.getD t.start) props.tag
      let u ← Read.peek
      let start := props.start.getD u.start
      readContent fuel block flat props.anchor tag start u

/-- The content of a node behind its properties, which starts with a given token. -/
def readContent : Nat → Bool → Bool → Option String → Option String → Mark → Token → Read ε Node
  | 0, _, _, _, _, mark, _ => return emptyScalar mark
  | fuel + 1, block, flat, anchor, tag, start, u => do
    match u.kind with
    | .scalar text plain =>
      -- A scalar can bear a name too, but it cannot contain an alias of its own.
      let _ ← Read.next
      noteAnchor anchor start
      keep anchor (.scalar start (scalarTag tag plain text) text)
    | .flowSequenceStart =>
      -- A collection is noted before what is in it is read, since an alias in it may stand for
      -- it.
      noteAnchor anchor start
      let _ ← Read.next
      let items ← readFlowItems fuel u.start true []
      keep anchor (.sequence start (collectionTag "seq" tag) items)
    | .flowMappingStart =>
      noteAnchor anchor start
      let _ ← Read.next
      let entries ← readFlowEntries fuel u.start true []
      keep anchor (.mapping start (collectionTag "map" tag) entries)
    | kind =>
      -- The entries stand in the column of the key, so no token has announced the sequence.
      if flat && kind == .blockEntry then
        noteAnchor anchor start
        let items ← readFlatItems fuel []
        keep anchor (.sequence start (collectionTag "seq" tag) items)
      else if block && kind == .blockSequenceStart then
        noteAnchor anchor start
        let _ ← Read.next
        let items ← readBlockItems fuel u.start []
        keep anchor (.sequence start (collectionTag "seq" tag) items)
      else if block && kind == .blockMappingStart then
        noteAnchor anchor start
        let _ ← Read.next
        let entries ← readBlockEntries fuel u.start []
        keep anchor (.mapping start (collectionTag "map" tag) entries)
      -- Properties without content stand for an empty scalar.
      else if anchor.isSome || tag.isSome then
        noteAnchor anchor start
        let tag := if isOpenTag tag then coreTag "null" else tag.getD ""
        keep anchor (.scalar start tag "")
      else
        let place := if block then "while parsing a block node" else "while parsing a flow node"
        Read.fail (troubleIn place start
          ("expected the node content, but found " ++ u.shown) u.start)

/-- The entries of a block sequence that began at a place. -/
def readBlockItems : Nat → Mark → List Node → Read ε (List Node)
  | 0, _, items => return items.reverse
  | fuel + 1, start, items => do
    let t ← Read.peek
    match t.kind with
    | .blockEntry =>
      let _ ← Read.next
      -- An entry without content ends behind its dash.
      let node ← if ← Read.at? endsBlockEntry then pure (emptyScalar t.stop)
        else readNode fuel true false
      readBlockItems fuel start (node :: items)
    | .blockEnd =>
      let _ ← Read.next
      return items.reverse
    | _ => unended "while parsing a block collection" start t

/-- The entries of a block sequence that is not indented. -/
def readFlatItems : Nat → List Node → Read ε (List Node)
  | 0, items => return items.reverse
  | fuel + 1, items => do
    let t ← Read.peek
    match t.kind with
    | .blockEntry =>
      let _ ← Read.next
      let node ← if ← Read.at? endsFlatEntry then pure (emptyScalar t.stop)
        else readNode fuel true false
      readFlatItems fuel (node :: items)
    | _ => return items.reverse

/-- The entries of a block mapping that began at a place. -/
def readBlockEntries : Nat → Mark → List (Node × Node) → Read ε (List (Node × Node))
  | 0, _, entries => return entries.reverse
  | fuel + 1, start, entries => do
    let t ← Read.peek
    match t.kind with
    | .key =>
      let _ ← Read.next
      let key ← if ← Read.at? endsPairPart then pure (emptyScalar t.stop)
        else readNode fuel true true
      let value ← readBlockValue fuel
      readBlockEntries fuel start ((key, value) :: entries)
    | .blockEnd =>
      let _ ← Read.next
      return entries.reverse
    | _ => unended "while parsing a block mapping" start t

/-- The value of an entry of a block mapping, which may be missing. -/
def readBlockValue : Nat → Read ε Node
  | 0 => do return emptyScalar (← Read.peek).start
  | fuel + 1 => do
    let t ← Read.peek
    match t.kind with
    | .value =>
      let _ ← Read.next
      if ← Read.at? endsPairPart then return emptyScalar t.stop
      else readNode fuel true true
    | _ => return emptyScalar t.start

/-- The items of a flow sequence that began at a place. An item may be a key with a value,
    which makes a mapping of one entry. -/
def readFlowItems : Nat → Mark → Bool → List Node → Read ε (List Node)
  | 0, _, _, items => return items.reverse
  | fuel + 1, start, first, items => do
    -- The closing bracket may follow the opening one at once.
    if ← Read.at? (· == .flowSequenceEnd) then
      let _ ← Read.next
      return items.reverse
    else
      readComma "sequence" start ']' first
      let t ← Read.peek
      match t.kind with
      | .key =>
        let _ ← Read.next
        let key ← if ← Read.at? (endsFlowKey .flowSequenceEnd) then pure (emptyScalar t.stop)
          else readNode fuel false false
        let value ← readFlowValue fuel .flowSequenceEnd
        let pair := Node.mapping t.start (coreTag "map") [(key, value)]
        readFlowItems fuel start false (pair :: items)
      -- It may also follow a comma, which then separates nothing.
      | .flowSequenceEnd =>
        let _ ← Read.next
        return items.reverse
      | _ =>
        let node ← readNode fuel false false
        readFlowItems fuel start false (node :: items)

/-- The entries of a flow mapping that began at a place. -/
def readFlowEntries : Nat → Mark → Bool → List (Node × Node) → Read ε (List (Node × Node))
  | 0, _, _, entries => return entries.reverse
  | fuel + 1, start, first, entries => do
    if ← Read.at? (· == .flowMappingEnd) then
      let _ ← Read.next
      return entries.reverse
    else
      readComma "mapping" start '\x7d' first
      let t ← Read.peek
      match t.kind with
      | .key =>
        let _ ← Read.next
        let key ← if ← Read.at? (endsFlowKey .flowMappingEnd) then pure (emptyScalar t.stop)
          else readNode fuel false false
        let value ← readFlowValue fuel .flowMappingEnd
        readFlowEntries fuel start false ((key, value) :: entries)
      | .flowMappingEnd =>
        let _ ← Read.next
        return entries.reverse
      | _ =>
        let key ← readNode fuel false false
        -- A node without a colon is a key that has no value.
        let value := emptyScalar (← Read.peek).start
        readFlowEntries fuel start false ((key, value) :: entries)

/-- The value of an entry of a flow collection, which may be missing. -/
def readFlowValue : Nat → TokenKind → Read ε Node
  | 0, _ => do return emptyScalar (← Read.peek).start
  | fuel + 1, close => do
    let t ← Read.peek
    match t.kind with
    | .value =>
      let _ ← Read.next
      if ← Read.at? (endsFlowValue close) then return emptyScalar t.stop
      else readNode fuel false false
    | _ => return emptyScalar t.start

end

/-- The directives in front of a document, of which the version has been seen or not. -/
def readDirectives : Nat → Bool → Read ε Unit
  | 0, _ => return ()
  -- At most one version may be given, and only its first number matters.
  | fuel + 1, versioned => do
    let t ← Read.peek
    match t.kind with
    | .versionDirective major =>
      let _ ← Read.next
      if versioned then Read.fail (troubleAt "found duplicate YAML directive" t.start)
      else if major != 1 then
        Read.fail
          (troubleAt "found incompatible YAML document (version 1.* is required)" t.start)
      else readDirectives fuel true
    | .tagDirective handle text =>
      let _ ← Read.next
      if ((← get).handles.lookup handle).isSome then
        Read.fail (troubleAt ("duplicate tag handle " ++ quoted handle) t.start)
      else
        modify fun s => { s with handles := s.handles ++ [(handle, text)] }
        readDirectives fuel versioned
    | .otherDirective =>
      let _ ← Read.next
      readDirectives fuel versioned
    | _ => return ()

/-- Passes over the ends of documents. -/
def skipDocumentEnds : Nat → Read ε Unit
  | 0 => return ()
  | fuel + 1 => do
    if ← Read.at? (· == .documentEnd) then
      let _ ← Read.next
      skipDocumentEnds fuel
    else return ()

/-- A token opens a document or ends the stream. -/
def opensDocument : TokenKind → Bool
  | .versionDirective _ | .tagDirective _ _ | .otherDirective => true
  | .documentStart | .streamEnd => true
  | _ => false

/-- A token leaves a document without content. -/
def leavesEmpty : TokenKind → Bool
  | .documentEnd => true
  | k => opensDocument k

/-- The head of a document that is announced: its directives and its three dashes. The
    place where it starts is given, or nothing at the end of the stream. -/
def readDocumentHead (fuel : Nat) : Read ε (Option Mark) := do
  skipDocumentEnds fuel
  let t ← Read.peek
  if t.kind == .streamEnd then return none
  else
    -- Handles last for one document. Those that are known anyway can be given another meaning.
    modify fun s => { s with handles := [] }
    readDirectives fuel false
    modify fun s => { s with handles :=
      s.handles ++ commonHandles.filter fun h => (s.handles.lookup h.1).isNone }
    let u ← Read.peek
    if u.kind == .documentStart then
      let _ ← Read.next
      return some t.start
    else
      Read.fail (troubleAt ("expected '<document start>', but found " ++ u.shown) u.start)

/-- The first document of a stream, which need not be announced. -/
def readDocument (fuel : Nat) : Read ε (Option Node) := do
  -- The start of the stream is passed over.
  let _ ← Read.next
  let t ← Read.peek
  if opensDocument t.kind then
    match ← readDocumentHead fuel with
    | none => return none
    | some _ =>
      let u ← Read.peek
      if leavesEmpty u.kind then return some (emptyScalar u.start)
      else return some (← readNode fuel true false)
  else return some (← readNode fuel true false)

/-- The only document of a stream. -/
def readSingle (fuel : Nat) : Read ε (Option Node) := do
  match ← readDocument fuel with
  | none => return none
  | some root =>
    let t ← Read.peek
    if t.kind == .documentEnd then
      let _ ← Read.next
    match ← readDocumentHead fuel with
    | none => return some root
    -- Behind the only document nothing but the end of the stream may come.
    | some again =>
      Read.fail (troubleIn "expected a single document in the stream" (root.mark.getD again)
        "but found another document" again)

/-- The document of a text, or nothing if the text has none. -/
def Document.read (source : String) (text : Supply ε) : Scan ε (Option Document) := do
  let tokens ← TokenStream.start source text
  let state : Reading ε := ⟨tokens, commonHandles, [], [], false⟩
  -- Each character makes a few tokens at most, and each token a few steps of the recursion.
  let (root, state) ← (readSingle (10 * text.chars.length + 100)).run state
  return root.map fun root => ⟨root, state.named.reverse, state.tangled⟩

end Yaml

end CodeAudit
