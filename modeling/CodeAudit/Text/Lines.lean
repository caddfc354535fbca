/-!
# Lines

Lines, positions and snippets of a text.

A line ends at a line feed and nowhere else, so that the lines of a text and the
line number of a position agree. A carriage return at the end of a line is left
out of the line; form feeds and other separators stay inside it.

A position is an offset counted from the start of the text. A negative offset
counts from the end, and an offset beyond either end is treated as that end when
lines are counted; only the column keeps the distance to the offset as given.

## Main definitions

* `segments`: The pieces of a text between line feeds.
* `splitLines`, `countLines`: The lines of a text and their number.
* `lineNumberAt`, `columnNumberAt`: The position of an offset.
* `snippet`: The lines around a line.
* `normalizeNewlines`: A text with every line end written as a line feed.
-/

namespace CodeAudit

/-- The pieces between line feeds. The piece being read and the pieces found so
    far are given in reverse. -/
def segmentsFrom : List Char → List (List Char) → List Char → List (List Char)
  | cur, found, [] => (cur.reverse :: found).reverse
  | cur, found, c :: rest =>
    if c == '\n' then segmentsFrom [] (cur.reverse :: found) rest
    else segmentsFrom (c :: cur) found rest

/-- The pieces of a text between line feeds: one more than there are line feeds. -/
def segments (cs : List Char) : List (List Char) :=
  segmentsFrom [] [] cs

/-- A line without a carriage return at its end. -/
def withoutReturn (line : List Char) : List Char :=
  if line.getLast? == some '\r' then line.dropLast else line

/-- A list of pieces without an empty last one. -/
def dropEmptyLast (pieces : List (List Char)) : List (List Char) :=
  if pieces.getLast? == some [] then pieces.dropLast else pieces

/-- The lines of a text. A text that ends in a line feed has no further line. -/
def splitLines (cs : List Char) : List (List Char) :=
  (dropEmptyLast (segments cs)).map withoutReturn

/-- The number of lines of a text. -/
def countLines (cs : List Char) : Nat :=
  (splitLines cs).length

/-- The part of a text that stands before an offset. -/
def before (cs : List Char) (offset : Int) : List Char :=
  -- A negative offset counts from the end, as an index does.
  cs.take (if offset < 0 then (offset + cs.length).toNat else offset.toNat)

/-- The number of the line an offset lies in, from one. -/
def lineNumberAt (cs : List Char) (offset : Int) : Nat :=
  (before cs offset).count '\n' + 1

/-- The index of the last line feed of a text, or minus one. -/
def lastLineFeed (cs : List Char) : Int :=
  Int.ofNat cs.length - 1 - Int.ofNat (cs.reverse.takeWhile (· != '\n')).length

/-- The column of an offset, from one: its distance to the line feed before it. -/
def columnNumberAt (cs : List Char) (offset : Int) : Int :=
  offset - lastLineFeed (before cs offset)

/-- The elements of a list from one index up to another, where a negative index
    counts from the end. -/
def slice {α : Type} (xs : List α) (lo hi : Int) : List α :=
  let place (i : Int) : Nat := if i < 0 then (i + xs.length).toNat else i.toNat
  (xs.take (place hi)).drop (place lo)

/-- Lines joined by line feeds. -/
def joinLines (lines : List (List Char)) : List Char :=
  List.intercalate ['\n'] lines

/-- The lines from `context` lines before a line to `context` lines after it. -/
def snippet (cs : List Char) (line context : Int) : List Char :=
  let lines := splitLines cs
  -- The bounds are cut off at both ends of the text, so near an end fewer lines are shown.
  joinLines (slice lines (max 0 (line - context - 1)) (min lines.length (line + context)))

/-- The number of lines shown on either side of a finding. -/
def snippetContext : Int := 2

/-- A text with every line end, be it a carriage return, a line feed or both,
    written as one line feed. -/
def normalizeNewlines : List Char → List Char
  | [] => []
  | '\r' :: '\n' :: rest => '\n' :: normalizeNewlines rest
  | '\r' :: rest => '\n' :: normalizeNewlines rest
  | c :: rest => c :: normalizeNewlines rest

end CodeAudit
