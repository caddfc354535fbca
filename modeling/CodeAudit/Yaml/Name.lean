import CodeAudit.Text.Utf8
import CodeAudit.Yaml.Cursor
import CodeAudit.Yaml.Token

/-!
# Names in Documents

Anchors, aliases, tags and directives.

An anchor gives a name to a value and an alias repeats the value of that name. A tag
says what a value is; it is written as a whole, or as a handle and a suffix, where a
directive may say what the handle stands for. In a tag any byte can be written as a
percent sign and two hexadecimal digits.

## Main definitions

* `Yaml.scanAnchor`: An anchor or an alias.
* `Yaml.scanTag`: A tag.
* `Yaml.scanDirective`: A directive.
-/

namespace CodeAudit

namespace Yaml

variable {ε : Type}

/-- A rest of a line that holds a comment at most. -/
def scanLineRest (context : String) (start : Mark) (c : Cursor ε) : Scan ε (Cursor ε) := do
  let c ← c.skipSpaces
  let c ← c.skipComment
  -- The line ends here, with a comment or without one.
  if endsLine c.peek then return (← c.lineBreak).2
  else
    troubleIn context start
      ("expected a comment or a line break, but found " ++ c.shownNext) c.mark

/-- An anchor or an alias, whose indicator stands at the cursor. -/
def scanAnchor (c : Cursor ε) : Scan ε (Token × Cursor ε) := do
  let start := c.mark
  let isAlias := c.peek == '*'
  let context := if isAlias then "while scanning an alias" else "while scanning an anchor"
  let c ← c.advance
  let (name, c) ← c.takeWhile isNameChar
  let wrong : Scan ε (Token × Cursor ε) :=
    troubleIn context start
      ("expected alphabetic or numeric character, but found " ++ c.shownNext) c.mark
  if name.isEmpty then wrong
  -- What follows has to be unable to belong to the name.
  else if endsWord c.peek || "?:,]\x7d%@`".toList.contains c.peek then
    let name := String.ofList name
    return (⟨if isAlias then .alias name else .anchor name, start, c.mark⟩, c)
  else wrong

/-- The byte written by two hexadecimal digits at the cursor, and the cursor behind them. -/
def scanByte (context : String) (start : Mark) (c : Cursor ε) : Scan ε (UInt8 × Cursor ε) := do
  let wrong (x : Char) : Scan ε (UInt8 × Cursor ε) :=
    troubleIn context start
      ("expected URI escape sequence of 2 hexadecimal numbers, but found " ++ shownChar x) c.mark
  if !isHexDigit c.peek then wrong c.peek
  else
    let second ← c.lookAhead 1
    if !isHexDigit second then wrong second
    else return (UInt8.ofNat (hexNumber [c.peek, second]), ← c.forward 2)

/-- The bytes written by percent signs at the cursor, up to a number of them. -/
def scanBytes (context : String) (start : Mark) : Nat → Cursor ε → Scan ε (List UInt8 × Cursor ε)
  | 0, c => .ok ([], c)
  | fuel + 1, c =>
    -- The bytes of one character are written one behind the other, so they are read together.
    if c.peek == '%' then do
      let c ← c.advance
      let (b, c) ← scanByte context start c
      let (bs, c) ← scanBytes context start fuel c
      return (b :: bs, c)
    else .ok ([], c)

/-- A character may stand in a tag as it is. -/
def isTagChar (c : Char) : Bool :=
  c.isAlphanum || "-;/?:@&=+$,_.!~*'()[]".toList.contains c

/-- The parts of a tag up to the first character that cannot belong to one. -/
def scanTagParts (context : String) (start : Mark) :
    Nat → Cursor ε → Scan ε (List Char × Cursor ε)
  | 0, c => .ok ([], c)
  | fuel + 1, c => do
    let (part, c) ← c.takeWhile isTagChar
    if c.peek == '%' then
      let here := c.mark
      let (bs, c) ← scanBytes context start (c.rest.length + 1) c
      -- Only all bytes of a run together are a text, and a part of a character is none.
      match Utf8.decode? bs with
      | none => troubleIn context start "invalid bytes in a tag" here
      | some cs =>
        let (rest, c) ← scanTagParts context start fuel c
        return (part ++ cs ++ rest, c)
    else return (part, c)

/-- The text of a tag, which must not be empty. -/
def scanTagText (what : String) (start : Mark) (c : Cursor ε) : Scan ε (String × Cursor ε) := do
  let (text, behind) ← scanTagParts ("while scanning a " ++ what) start (c.rest.length + 1) c
  -- Nothing was taken, so there is no text; an empty text can also be written by bytes.
  if behind.index == c.index then
    troubleIn ("while parsing a " ++ what) start
      ("expected URI, but found " ++ c.shownNext) c.mark
  else return (String.ofList text, behind)

/-- A tag handle: an exclamation mark, or a name between two of them. -/
def scanHandle (what : String) (start : Mark) (c : Cursor ε) : Scan ε (String × Cursor ε) := do
  let wrong (c : Cursor ε) : Scan ε (String × Cursor ε) :=
    troubleIn ("while scanning a " ++ what) start ("expected '!', but found " ++ c.shownNext) c.mark
  if c.peek != '!' then wrong c
  else
    let c ← c.advance
    -- The handle is the sign alone where a space follows.
    if c.peek == ' ' then return ("!", c)
    else
      let (name, c) ← c.takeWhile isNameChar
      if c.peek == '!' then return ("!" ++ String.ofList name ++ "!", ← c.advance)
      else wrong c

/-- A second exclamation mark follows in the same word. -/
def handleFollows (c : Cursor ε) : Scan ε Bool := do
  -- The word is looked through up to the sign, or else to its end.
  let before := c.rest.tail.takeWhile fun x => !(x == '!' || endsName x)
  return (← c.lookAhead (before.length + 1)) == '!'

/-- The handle and the suffix of a tag that is neither whole nor bare. It has a handle
    of its own if another exclamation mark follows in the same word. -/
def scanShortTag (start : Mark) (c : Cursor ε) :
    Scan ε (Option String × String × Cursor ε) := do
  let ownHandle ← handleFollows c
  let (handle, c) ← if ownHandle then scanHandle "tag" start c else pure ("!", ← c.advance)
  let (suffix, c) ← scanTagText "tag" start c
  return (some handle, suffix, c)

/-- A tag between angle brackets. -/
def scanWholeTag (start : Mark) (c : Cursor ε) :
    Scan ε (Option String × String × Cursor ε) := do
  let c ← c.forward 2
  let (suffix, c) ← scanTagText "tag" start c
  if c.peek != '>' then
    troubleIn "while parsing a tag" start ("expected '>', but found " ++ c.shownNext) c.mark
  else return (none, suffix, ← c.advance)

/-- A tag. -/
def scanTag (c : Cursor ε) : Scan ε (Token × Cursor ε) := do
  let start := c.mark
  let next ← c.lookAhead 1
  let (handle, suffix, c) ←
    if next == '<' then scanWholeTag start c
    -- A sign alone is the tag that says nothing about the kind.
    else if endsWord next then do pure (none, "!", ← c.advance)
    else scanShortTag start c
  if endsName c.peek then return (⟨.tag handle suffix, start, c.mark⟩, c)
  else troubleIn "while scanning a tag" start ("expected ' ', but found " ++ c.shownNext) c.mark

/-- A failure while a directive is read. -/
def directiveTrouble {α : Type} (start : Mark) (c : Cursor ε) (expected : String) : Scan ε α :=
  troubleIn "while scanning a directive" start
    ("expected " ++ expected ++ ", but found " ++ c.shownNext) c.mark

/-- A number of a version. -/
def scanVersionPart (start : Mark) (c : Cursor ε) : Scan ε (Nat × Cursor ε) := do
  let (digits, behind) ← c.takeWhile Char.isDigit
  if digits.isEmpty then directiveTrouble start c "a digit"
  else if digits.length > digitLimit then
    .error (.defect (.badValue (Fault.integerTooLong digits.length).text))
  else return (decimalNat digits, behind)

/-- The version in a directive. -/
def scanVersion (start : Mark) (c : Cursor ε) : Scan ε (TokenKind × Cursor ε) := do
  let c ← c.skipSpaces
  let (major, c) ← scanVersionPart start c
  if c.peek != '.' then directiveTrouble start c "a digit or '.'"
  else
    let c ← c.advance
    -- The second number does not matter, but has to be there.
    let (_, c) ← scanVersionPart start c
    if endsName c.peek then return (.versionDirective major, c)
    else directiveTrouble start c "a digit or ' '"

/-- The handle in a directive and what it stands for. -/
def scanTagDirective (start : Mark) (c : Cursor ε) : Scan ε (TokenKind × Cursor ε) := do
  let c ← c.skipSpaces
  let (handle, c) ← scanHandle "directive" start c
  if c.peek != ' ' then directiveTrouble start c "' '"
  else
    let c ← c.skipSpaces
    let (text, c) ← scanTagText "directive" start c
    if endsName c.peek then return (.tagDirective handle text, c)
    else directiveTrouble start c "' '"

/-- What a directive of another name says, which is passed over. -/
def scanOtherDirective (c : Cursor ε) : Scan ε (TokenKind × Cursor ε) := do
  return (.otherDirective, ← c.dropWhile fun x => !endsLine x)

/-- A directive, whose percent sign stands at the cursor, and the rest of its line. -/
def scanDirective (c : Cursor ε) : Scan ε (Token × Cursor ε) := do
  let start := c.mark
  let c ← c.advance
  let (name, c) ← c.takeWhile isNameChar
  if name.isEmpty || !endsName c.peek then
    directiveTrouble start c "alphabetic or numeric character"
  else
    let (kind, c) ←
      if String.ofList name == "YAML" then scanVersion start c
      else if String.ofList name == "TAG" then scanTagDirective start c
      else scanOtherDirective c
    -- The end of the directive is the end of its content, in front of a comment.
    let stop := c.mark
    let c ← scanLineRest "while scanning a directive" start c
    return (⟨kind, start, stop⟩, c)

end Yaml

end CodeAudit
