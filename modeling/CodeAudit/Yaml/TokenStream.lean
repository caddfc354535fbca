import CodeAudit.Yaml.Scalar

/-!
# Token Streams

The tokens of a document, one after the other.

A stream gives tokens as they are asked for and reads no more of the text than it has
to. Three things make it more than a list of what stands in the text.

*Indentation.* Outside flow collections the column of a line says which block
collections it belongs to. Collections that begin are announced in front of their
first entry, and those that end when a line stands further to the left.

*Keys.* A scalar or a flow collection may turn out to be the key of a mapping, which
is known only when a colon follows. Until then it is a `PendingKey`, and its token is
held back; when the colon comes, the token that announces a key is put in front of it.
A pending key is given up at the end of its line or after 1024 characters. If it
stands where only a key can stand, giving it up is an error.

*Places where a key may start.* After a value on the same line none may.

## Main definitions

* `Yaml.PendingKey`: A token that may be a key.
* `Yaml.TokenStream`: A stream of tokens.
* `Yaml.TokenStream.fetch`: Reads the next part of the text.
* `Yaml.TokenStream.peek`, `Yaml.TokenStream.next`: Looks at, or takes, the next token.
-/

namespace CodeAudit

namespace Yaml

/-- A token that may turn out to be a key: its number in the stream, whether only a key
    can stand where it stands, and its place. -/
structure PendingKey where
  number : Nat
  required : Bool
  index : Nat
  mark : Mark
deriving Repr

/-- A stream of tokens: the text to be read, the tokens read but not taken, and how many
    have been taken. Pending keys are kept by the nesting of flow collections they stand
    in. -/
structure TokenStream (ε : Type) where
  cursor : Cursor ε
  finished : Bool
  flowLevel : Int
  queue : List Token
  taken : Nat
  indent : Int
  indents : List Int
  keyAllowed : Bool
  keys : List (Int × PendingKey)

namespace TokenStream

variable {ε : Type}

/-- The stream of a text. -/
def start (source : String) (text : Supply ε) : Scan ε (TokenStream ε) := do
  let cursor ← Cursor.start source text
  return { cursor, finished := false, flowLevel := 0,
           queue := [Token.empty .streamStart cursor.mark], taken := 0, indent := -1, indents := [],
           keyAllowed := true, keys := [] }

/-- The stream with a token added. -/
def add (t : Token) (s : TokenStream ε) : TokenStream ε :=
  { s with queue := s.queue ++ [t] }

/-- The stream with a token put in front of the one with a number. -/
def insertAt (number : Nat) (t : Token) (s : TokenStream ε) : TokenStream ε :=
  -- Tokens are counted from the start of the stream, and those that have been taken are gone.
  let n := number - s.taken
  { s with queue := s.queue.take n ++ t :: s.queue.drop n }

/-- A place inside a flow collection. -/
def inFlow (s : TokenStream ε) : Bool :=
  s.flowLevel != 0

/-- The failure of a key that has no colon behind it. -/
def missingColon {α : Type} (key : PendingKey) (mark : Mark) : Scan ε α :=
  troubleIn "while scanning a simple key" key.mark "could not find expected ':'" mark

/-- The failure of a token where it is not allowed. -/
def notAllowed {α : Type} (what : String) (s : TokenStream ε) : Scan ε α :=
  troubleAt (what ++ " are not allowed here") s.cursor.mark

/-- Gives up the pending keys that are too far away. -/
def dropStaleKeys (s : TokenStream ε) : Scan ε (TokenStream ε) :=
  let isStale (key : PendingKey) : Bool :=
    key.mark.line != s.cursor.line || s.cursor.index - key.index > 1024
  -- One that is required and out of reach is a mistake, also where others could be given up.
  match s.keys.find? fun p => isStale p.2 && p.2.required with
  | some (_, key) => missingColon key s.cursor.mark
  | none => .ok { s with keys := s.keys.filter fun p => !isStale p.2 }

/-- Gives up the pending key of the current flow collection. -/
def dropKey (s : TokenStream ε) : Scan ε (TokenStream ε) :=
  match s.keys.lookup s.flowLevel with
  | some key =>
    if key.required then missingColon key s.cursor.mark
    else .ok { s with keys := s.keys.filter fun p => p.1 != s.flowLevel }
  | none => .ok s

/-- Makes the next token a pending key, where a key may start. -/
def saveKey (s : TokenStream ε) : Scan ε (TokenStream ε) :=
  if s.keyAllowed then do
    -- In the column of a block collection nothing but a key of it can stand.
    let required := !s.inFlow && s.indent == (s.cursor.column : Int)
    let s ← s.dropKey
    let key : PendingKey :=
      ⟨s.taken + s.queue.length, required, s.cursor.index, s.cursor.mark⟩
    return { s with keys := (s.flowLevel, key) :: s.keys }
  else .ok s

/-- Ends the block collections that are indented further than a column. -/
def unwindFrom (column : Int) (mark : Mark) : List Int → Int → List Token → Int × List Int × List Token
  | [], indent, ends => (indent, [], ends)
  | outer :: rest, indent, ends =>
    if indent > column then unwindFrom column mark rest outer (Token.empty .blockEnd mark :: ends)
    else (indent, outer :: rest, ends)

/-- Ends the block collections that are indented further than a column. Inside a flow
    collection indentation means nothing. -/
def unwind (column : Int) (s : TokenStream ε) : TokenStream ε :=
  if s.inFlow then s
  -- The ends are added in the order in which the collections close.
  else
    let (indent, indents, ends) := unwindFrom column s.cursor.mark s.indents s.indent []
    { s with indent, indents, queue := s.queue ++ ends }

/-- Begins a block collection at a column if it lies further to the right than the
    present one, and says whether it does. -/
def indentTo (column : Int) (s : TokenStream ε) : Bool × TokenStream ε :=
  if s.indent < column then
    (true, { s with indent := column, indents := s.indent :: s.indents })
  else (false, s)

/-- Announces a block collection at the cursor, if one begins there. -/
def openBlock (kind : TokenKind) (s : TokenStream ε) : TokenStream ε :=
  match s.indentTo s.cursor.column with
  | (true, s) => s.add (Token.empty kind s.cursor.mark)
  | (false, s) => s

/-- Reads a token of a fixed number of characters. -/
def take (kind : TokenKind) (length : Nat) (s : TokenStream ε) : Scan ε (TokenStream ε) := do
  let behind ← s.cursor.forward length
  return { s with cursor := behind, queue := s.queue ++ [⟨kind, s.cursor.mark, behind.mark⟩] }

/-- Adds a token that has been read by a cursor. -/
def addRead (s : TokenStream ε) (found : Token × Cursor ε) : TokenStream ε :=
  { s with cursor := found.2, queue := s.queue ++ [found.1] }

/-- Reads the end of the text. -/
def fetchEnd (s : TokenStream ε) : Scan ε (TokenStream ε) := do
  -- All block collections end here, and no key can be pending any more.
  let s ← (s.unwind (-1)).dropKey
  return { s.add (Token.empty .streamEnd s.cursor.mark) with
    keyAllowed := false, keys := [], finished := true }

/-- Reads a directive. -/
def fetchDirective (s : TokenStream ε) : Scan ε (TokenStream ε) := do
  let s ← (s.unwind (-1)).dropKey
  let found ← scanDirective s.cursor
  return { s.addRead found with keyAllowed := false }

/-- Reads the start or the end of a document. -/
def fetchSeparator (kind : TokenKind) (s : TokenStream ε) : Scan ε (TokenStream ε) := do
  let s ← (s.unwind (-1)).dropKey
  return { ← s.take kind 3 with keyAllowed := false }

/-- Reads the start of a flow collection. -/
def fetchFlowStart (kind : TokenKind) (s : TokenStream ε) : Scan ε (TokenStream ε) := do
  let s ← s.saveKey
  let s ← s.take kind 1
  return { s with flowLevel := s.flowLevel + 1, keyAllowed := true }

/-- Reads the end of a flow collection. -/
def fetchFlowEnd (kind : TokenKind) (s : TokenStream ε) : Scan ε (TokenStream ε) := do
  let s ← s.dropKey
  let s ← s.take kind 1
  return { s with flowLevel := s.flowLevel - 1, keyAllowed := false }

/-- Reads a comma. -/
def fetchFlowEntry (s : TokenStream ε) : Scan ε (TokenStream ε) := do
  let s ← s.dropKey
  return { ← s.take .flowEntry 1 with keyAllowed := true }

/-- Reads the dash of a block entry. -/
def fetchBlockEntry (s : TokenStream ε) : Scan ε (TokenStream ε) :=
  if !s.inFlow && !s.keyAllowed then s.notAllowed "sequence entries"
  else do
    -- The first dash of a column announces the sequence.
    let s := if s.inFlow then s else s.openBlock .blockSequenceStart
    let s ← s.dropKey
    return { ← s.take .blockEntry 1 with keyAllowed := true }

/-- Reads the question mark of a key. -/
def fetchKey (s : TokenStream ε) : Scan ε (TokenStream ε) :=
  if !s.inFlow && !s.keyAllowed then s.notAllowed "mapping keys"
  else do
    let s := if s.inFlow then s else s.openBlock .blockMappingStart
    let s ← s.dropKey
    -- A key that is announced can be a mapping itself, but not inside a flow collection.
    return { ← s.take .key 1 with keyAllowed := !s.inFlow }

/-- Announces a pending key, and the block mapping that begins with it. -/
def announceKey (key : PendingKey) (s : TokenStream ε) : TokenStream ε :=
  -- The mapping is announced in front of the key, so the key is put in first.
  let s := s.insertAt key.number (Token.empty .key key.mark)
  if s.inFlow then s
  else
    match s.indentTo key.mark.column with
    | (true, s) => s.insertAt key.number (Token.empty .blockMappingStart key.mark)
    | (false, s) => s

/-- Reads the colon of a value. -/
def fetchValue (s : TokenStream ε) : Scan ε (TokenStream ε) :=
  match s.keys.lookup s.flowLevel with
  | some key => do
    let s := { s with keys := s.keys.filter fun p => p.1 != s.flowLevel }
    return { ← (s.announceKey key).take .value 1 with keyAllowed := false }
  | none =>
    if !s.inFlow && !s.keyAllowed then s.notAllowed "mapping values"
    else do
      let s := if s.inFlow then s else s.openBlock .blockMappingStart
      let s ← s.dropKey
      return { ← s.take .value 1 with keyAllowed := !s.inFlow }

/-- Reads something that may be a key and after which no key may start. -/
def fetchAtom (scan : Cursor ε → Scan ε (Token × Cursor ε)) (s : TokenStream ε) :
    Scan ε (TokenStream ε) := do
  -- What is about to be read may be a key, so its place is kept before it is read.
  let s ← s.saveKey
  let found ← scan s.cursor
  return { s.addRead found with keyAllowed := false }

/-- Reads a block scalar. -/
def fetchBlockScalar (s : TokenStream ε) : Scan ε (TokenStream ε) := do
  -- A block scalar goes over several lines, so it is never a key.
  let s ← s.dropKey
  let found ← scanBlock s.indent s.cursor
  return { s.addRead found with keyAllowed := true }

/-- Reads a plain scalar. A key may start behind it only if a line has ended. -/
def fetchPlain (s : TokenStream ε) : Scan ε (TokenStream ε) := do
  let s ← s.saveKey
  let (token, crossed, cursor) ← scanPlain s.inFlow s.indent s.cursor
  return { s.addRead (token, cursor) with keyAllowed := crossed }

/-- Passes over blanks, comments and line ends. Behind a line end outside a flow
    collection a key may start. -/
def skipBlank : Nat → TokenStream ε → Scan ε (TokenStream ε)
  | 0, s => .ok s
  | fuel + 1, s => do
    let cursor ← s.cursor.skipSpaces
    -- A comment ends with its line, so it leads to a line end or to the end of the text.
    let cursor ← cursor.skipComment
    if isBreak cursor.peek then
      let (_, cursor) ← cursor.lineBreak
      skipBlank fuel { s with cursor, keyAllowed := s.keyAllowed || !s.inFlow }
    else return { s with cursor }

/-- Passes over a byte order mark at the start of the text. -/
def skipOrderMark (s : TokenStream ε) : Scan ε (TokenStream ε) :=
  if s.cursor.index == 0 && s.cursor.peek == '\uFEFF' then do
    return { s with cursor := ← s.cursor.advance }
  else .ok s

/-- The cursor stands before a separator of documents, which counts only at the start of a line. -/
def atSeparator (s : TokenStream ε) : Scan ε Bool :=
  if s.cursor.column == 0 && (s.cursor.peek == '-' || s.cursor.peek == '.') then
    s.cursor.atSeparator
  else .ok false

/-- A dash, a question mark or a colon at the cursor stands for itself. The latter two always do
    inside a flow collection, and otherwise all of them do at the end of a word. -/
def atIndicator (s : TokenStream ε) : Scan ε Bool :=
  if s.inFlow && s.cursor.peek != '-' then .ok true
  else do return endsWord (← s.cursor.lookAhead 1)

/-- Reads what begins with a dash, a question mark or a colon. -/
def fetchSign (s : TokenStream ε) : Scan ε (TokenStream ε) := do
  let indicates ← s.atIndicator
  -- In front of a word each of them is part of it.
  if !indicates then s.fetchPlain
  else if s.cursor.peek == '-' then s.fetchBlockEntry
  else if s.cursor.peek == '?' then s.fetchKey
  else s.fetchValue

/-- Reads what begins with a character that could start a plain scalar, or with one that nothing
    can start with. -/
def fetchWord (s : TokenStream ε) : Scan ε (TokenStream ε) :=
  let x := s.cursor.peek
  if !(endsWord x || ",[]\x7b\x7d#&*!|>'\"%@`".toList.contains x) then s.fetchPlain
  else do
    -- One more character is looked at before it is given up.
    let _ ← s.cursor.lookAhead 1
    .error (.malformed (.problem (some "while scanning for the next token") none
      ("found character " ++ s.cursor.shownNext ++ " that cannot start any token") s.cursor.mark))

/-- Reads a token that is neither the end of the text nor a directive or a separator. -/
def fetchContent (s : TokenStream ε) : Scan ε (TokenStream ε) :=
  let x := s.cursor.peek
  if x == '[' then s.fetchFlowStart .flowSequenceStart
  else if x == '\x7b' then s.fetchFlowStart .flowMappingStart
  else if x == ']' then s.fetchFlowEnd .flowSequenceEnd
  else if x == '\x7d' then s.fetchFlowEnd .flowMappingEnd
  else if x == ',' then s.fetchFlowEntry
  else if x == '-' || x == '?' || x == ':' then s.fetchSign
  else if x == '*' || x == '&' then s.fetchAtom scanAnchor
  else if x == '!' then s.fetchAtom scanTag
  else if (x == '|' || x == '>') && !s.inFlow then s.fetchBlockScalar
  else if x == '\'' || x == '"' then s.fetchAtom scanQuoted
  else s.fetchWord

/-- Reads the token that starts at the cursor. -/
def fetchHere (s : TokenStream ε) : Scan ε (TokenStream ε) :=
  let x := s.cursor.peek
  if x == '\x00' then s.fetchEnd
  -- A directive counts only at the start of a line.
  else if x == '%' && s.cursor.column == 0 then s.fetchDirective
  else do
    let separates ← s.atSeparator
    if separates then s.fetchSeparator (if x == '-' then .documentStart else .documentEnd)
    else s.fetchContent

/-- Reads the next part of the text: what ends before it, and one token. -/
def fetch (s : TokenStream ε) : Scan ε (TokenStream ε) := do
  let s ← s.skipOrderMark
  -- What is given up depends on where the next token stands, so blanks are passed over first.
  let s ← s.skipBlank (s.cursor.rest.length + 1)
  let s ← s.dropStaleKeys
  (s.unwind s.cursor.column).fetchHere

/-- The first token that is held back because it may be a key. -/
def firstPending (s : TokenStream ε) : Option Nat :=
  (s.keys.map fun p => p.2.number).min?

/-- Reads on until the next token is known. -/
def fill : Nat → TokenStream ε → Scan ε (TokenStream ε)
  | 0, s => .ok s
  | fuel + 1, s =>
    if s.finished then .ok s
    else if s.queue.isEmpty then do
      fill fuel (← s.fetch)
    else do
      -- The next token may still turn out to be a key, and then another one has to go before
      -- it.
      let s ← s.dropStaleKeys
      if s.firstPending == some s.taken then fill fuel (← s.fetch) else return s

/-- The next token, and the stream in which it is known. -/
def peek (s : TokenStream ε) : Scan ε (Token × TokenStream ε) := do
  let s ← s.fill (s.cursor.rest.length + 2)
  match s.queue with
  | t :: _ => return (t, s)
  | [] => return (Token.empty .streamEnd s.cursor.mark, s)

/-- The stream behind the next token. -/
def next (s : TokenStream ε) : TokenStream ε :=
  { s with queue := s.queue.tail, taken := s.taken + 1 }

end TokenStream

end Yaml

end CodeAudit
