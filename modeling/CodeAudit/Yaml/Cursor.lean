import CodeAudit.Yaml.Supply

/-!
# Cursors

A place in a document together with the text that follows it.

Everything that is read from a document is read by a cursor moving forward. The
cursor counts lines and columns as it goes. Line feed, carriage return, next line,
and the line and paragraph separators end a line, a carriage return with a line feed
behind it only together with it; the byte order mark takes no column.

Behind the end of the text stands a null character, which can stand nowhere else.

A text may be cut off instead of ending, and then looking behind it is a failure. The character at
the cursor is always known: a cursor that would move behind a text that is cut off fails to do so.
Characters further on are looked at only where this is needed, and in the order in which it is,
since looking at a character may be what fails.

## Main definitions

* `Yaml.Cursor`: A place with the text behind it.
* `Yaml.Cursor.peek`, `Yaml.Cursor.lookAhead`: The next character, and one further on.
* `Yaml.Cursor.advance`: The place behind the next character.
* `Yaml.Cursor.lineBreak`: Reads the end of a line.
* `Yaml.isBreak`, `Yaml.endsWord`: The characters that end a line or a word.
-/

namespace CodeAudit

namespace Yaml

/-- A place in a document together with the text that follows it, and the failure behind the text
    where it is cut off. -/
structure Cursor (ε : Type) where
  source : String
  rest : List Char
  failure : Option (LoadError ε)
  index : Nat
  line : Nat
  column : Nat
deriving Repr

/-- A character ends a line. -/
def isBreak (c : Char) : Bool :=
  c == '\n' || c == '\r' || c == '\x85' || c == '\u2028' || c == '\u2029'

/-- A character ends a line or the text. -/
def endsLine (c : Char) : Bool :=
  c == '\x00' || isBreak c

/-- A character is a space, or ends a line or the text. -/
def endsName (c : Char) : Bool :=
  c == ' ' || endsLine c

/-- A character is a space or a tab, or ends a line or the text. -/
def endsWord (c : Char) : Bool :=
  c == '\t' || endsName c

/-- A character may be part of a name. -/
def isNameChar (c : Char) : Bool :=
  c.isAlphanum || c == '-' || c == '_'

/-- A character as a message shows it. -/
def shownChar (x : Char) : String :=
  CodeAudit.quoted x.toString

namespace Cursor

variable {ε : Type}

/-- The first character of a text with a failure behind it, or with a null character if there is
    none. -/
def firstOf (failure : Option (LoadError ε)) : List Char → Scan ε Char
  | x :: _ => .ok x
  | [] =>
    match failure with
    | none => .ok '\x00'
    | some e => .error e

/-- A cursor, if it is known what stands at it. -/
def arrived (c : Cursor ε) : Scan ε (Cursor ε) := do
  let _ ← firstOf c.failure c.rest
  return c

/-- The start of a text. -/
def start (source : String) (text : Supply ε) : Scan ε (Cursor ε) :=
  arrived ⟨source, text.chars, text.failure, 0, 0, 0⟩

/-- The place of a cursor. -/
def mark (c : Cursor ε) : Mark :=
  ⟨c.source, c.line, c.column⟩

/-- The next character, or a null character at the end of the text. -/
def peek (c : Cursor ε) : Char :=
  c.rest.headD '\x00'

/-- The character at a distance. -/
def lookAhead (c : Cursor ε) (n : Nat) : Scan ε Char :=
  firstOf c.failure (c.rest.drop n)

/-- The cursor behind the next character. -/
def advance (c : Cursor ε) : Scan ε (Cursor ε) :=
  match c.rest with
  | [] => .ok c
  | x :: rest =>
    -- A carriage return in front of a line feed ends no line, since the two end one line
    -- together.
    if isBreak x && !(x == '\r' && rest.head? == some '\n') then
      arrived { c with rest, index := c.index + 1, line := c.line + 1, column := 0 }
    else if x == '\uFEFF' then arrived { c with rest, index := c.index + 1 }
    else arrived { c with rest, index := c.index + 1, column := c.column + 1 }

/-- The cursor behind a number of characters. -/
def forward : Nat → Cursor ε → Scan ε (Cursor ε)
  | 0, c => .ok c
  | n + 1, c => do forward n (← c.advance)

/-- The characters at the cursor that satisfy a test, and the cursor behind them. -/
def takeWhile (c : Cursor ε) (test : Char → Bool) : Scan ε (List Char × Cursor ε) := do
  let found := c.rest.takeWhile test
  return (found, ← c.forward found.length)

/-- The cursor behind the characters that satisfy a test. -/
def dropWhile (c : Cursor ε) (test : Char → Bool) : Scan ε (Cursor ε) := do
  return (← c.takeWhile test).2

/-- The cursor behind the spaces that follow. -/
def skipSpaces (c : Cursor ε) : Scan ε (Cursor ε) :=
  c.dropWhile (· == ' ')

/-- The cursor behind a comment, where one follows. -/
def skipComment (c : Cursor ε) : Scan ε (Cursor ε) :=
  if c.peek == '#' then c.dropWhile fun x => !endsLine x else .ok c

/-- Reads the end of a line. It counts as a line feed, except for the line and
    paragraph separators, which stand for themselves. Elsewhere nothing is read. -/
def lineBreak (c : Cursor ε) : Scan ε (List Char × Cursor ε) :=
  match c.rest with
  | '\r' :: '\n' :: _ => do return (['\n'], ← c.forward 2)
  | x :: _ =>
    -- The ends of lines are made one, and the separators are kept apart.
    if x == '\r' || x == '\n' || x == '\x85' then do return (['\n'], ← c.advance)
    else if x == '\u2028' || x == '\u2029' then do return ([x], ← c.advance)
    else .ok ([], c)
  | [] => .ok ([], c)

/-- The cursor stands before three dashes, or three points, that end a word. -/
def atSeparator (c : Cursor ε) : Scan ε Bool := do
  let y ← c.lookAhead 1
  let z ← c.lookAhead 2
  -- What stands behind the three is looked at only if they are a separator.
  if (c.peek == '-' || c.peek == '.') && y == c.peek && z == c.peek then
    return endsWord (← c.lookAhead 3)
  else return false

/-- The next character as a message shows it. -/
def shownNext (c : Cursor ε) : String :=
  shownChar c.peek

end Cursor

end Yaml

end CodeAudit
