import CodeAudit.Pattern.Match

/-!
# Globs

Patterns for paths.

A glob is read from the left into tokens. Two asterisks with a slash behind them stand for
any number of folders, two asterisks for any text, one asterisk for any text within a name,
and a question mark for one character of a name; every other character stands for itself.

A glob is matched as a regular expression: each token is written as a part of one, and a
path matches if it is matched from its start to its end. A character that would mean
something in a regular expression is written behind a backslash.

## Main definitions

* `Glob.Token`: A part of a glob.
* `Glob.tokens`: The tokens of a glob.
* `Glob.source`: A glob as the text of a regular expression.
* `Glob.switches`: What that text is read under.
* `Glob.compile`: The regular expression of a glob.
* `matchesGlob`: A path matches a glob.
-/

namespace CodeAudit

namespace Glob

/-- A part of a glob. -/
inductive Token
  /-- Nothing, or a text that ends in a slash. -/
  | folders
  /-- Any text. -/
  | anything
  /-- A text without a slash. -/
  | nameText
  /-- A character that is no slash. -/
  | nameChar
  /-- A character that stands for itself. -/
  | literal (c : Char)
deriving DecidableEq, Repr

/-- The tokens of a glob. -/
def tokens : List Char → List Token
  | [] => []
  -- The slash behind two stars goes with them, since there need not be a folder.
  | '*' :: '*' :: '/' :: rest => .folders :: tokens rest
  | '*' :: '*' :: rest => .anything :: tokens rest
  | '*' :: rest => .nameText :: tokens rest
  | '?' :: rest => .nameChar :: tokens rest
  | c :: rest => .literal c :: tokens rest

/-- The characters that are written behind a backslash to stand for themselves. -/
def escapedChars : List Char :=
  ['(', ')', '[', ']', '\x7b', '\x7d', '?', '*', '+', '-', '|', '^', '$', '\\', '.', '&', '~', '#',
   ' ', '\t', '\n', '\r', '\x0b', '\x0c']

/-- A character as a part of a regular expression that matches it. -/
def escape (c : Char) : List Char :=
  if escapedChars.contains c then ['\\', c] else [c]

/-- A token as a part of a regular expression. -/
def Token.source : Token → List Char
  | .folders => ['(', '?', ':', '.', '*', '/', ')', '?']
  | .anything => ['.', '*']
  | .nameText => ['[', '^', '/', ']', '*']
  | .nameChar => ['[', '^', '/', ']']
  | .literal c => escape c

/-- A glob as the text of a regular expression. -/
def source (glob : List Char) : List Char :=
  (tokens glob).flatMap Token.source

/-- What the regular expression of a glob is read under: the point in it stands for line feeds
    too. -/
def switches : Pattern.Switches :=
  { lineAnchors := false, dotAll := true }

/-- The regular expression of a glob. -/
def compile (glob : List Char) : Except Pattern.ParseError Pattern.Regex :=
  Pattern.parse (source glob) switches

end Glob

/-- A path matches a glob. -/
def matchesGlob (path glob : List Char) : Bool :=
  match Glob.compile glob with
  | .ok r => r.fullMatches path.toArray
  | .error _ => false

end CodeAudit
