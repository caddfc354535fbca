import CodeAudit.Text.Ranges

/-!
# Blank Characters

White space, in the sense used wherever a text is trimmed, compared up to
spacing, or matched against a class for space.

The class is the one of the Unicode character database together with the four
information separators U+001C to U+001F, which count as blank although they are
control characters. The zero width space U+200B does not.

## Main definitions

* `isBlank`: A character is white space.
* `trimStart`, `trim`: A text without leading, or leading and trailing, blanks.
* `words`: The maximal runs of characters that are not blank.
* `squeeze`: The words of a text, one space between neighbours.
-/

namespace CodeAudit

/-- The ranges of blank characters. -/
def blankRanges : CodeRanges :=
  [(9, 13), (28, 32), (133, 133), (160, 160), (5760, 5760), (8192, 8202), (8232, 8233),
   (8239, 8239), (8287, 8287), (12288, 12288)]

/-- A character is white space. -/
def isBlank (c : Char) : Bool :=
  blankRanges.contains c.toNat

/-- A text without its leading blanks. -/
def trimStart (cs : List Char) : List Char :=
  cs.dropWhile isBlank

/-- A text without its trailing blanks. -/
def trimEnd (cs : List Char) : List Char :=
  (cs.reverse.dropWhile isBlank).reverse

/-- A text without its leading and trailing blanks. -/
def trim (cs : List Char) : List Char :=
  trimEnd (trimStart cs)

/-- A string without its leading and trailing blanks. -/
def trimmed (s : String) : String :=
  String.ofList (trim s.toList)

/-- Splits a text into words, with the word being read in front (reversed). -/
def wordsFrom : List Char → List Char → List (List Char)
  | cur, [] => if cur.isEmpty then [] else [cur.reverse]
  | cur, c :: rest =>
    if isBlank c then
      if cur.isEmpty then wordsFrom [] rest else cur.reverse :: wordsFrom [] rest
    else
      wordsFrom (c :: cur) rest

/-- The maximal runs of characters that are not blank, from left to right. -/
def words (cs : List Char) : List (List Char) :=
  wordsFrom [] cs

/-- The words of a text with one space between neighbours: every run of blanks
    inside the text becomes a space, and none is left at the ends. -/
def squeeze (cs : List Char) : List Char :=
  List.intercalate [' '] (words cs)

end CodeAudit
