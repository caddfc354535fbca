/-!
# Runs of Character Names

Names of code points that follow one another, written briefly.

Neighbours in the Unicode character database mostly differ in their last words. So a name is
written behind the one before it: the number of words the two have in common at the start, and
the words behind them. The entries `LATIN SMALL LETTER A,3B,3C` are three names. A name that
starts anew is written as it is, since no name starts with a digit.

## Main definitions

* `NameRun`: The names of code points that follow one another.
* `NameRun.find?`: The code point of a name in a run.
-/

namespace CodeAudit

/-- The names of code points that follow one another. They stand on lines, with commas between
    them. -/
structure NameRun where
  first : Nat
  lines : List String

/-- The words of a name, from its entry and the words of the name before it. -/
def entryWords (before : List String) (entry : String) : List String :=
  match entry.toList with
  | [] => []
  | c :: rest =>
    if c.isDigit then
      before.take (c.toNat - '0'.toNat) ++ (String.ofList rest).splitOn " "
    else entry.splitOn " "

/-- The code point of a name among entries, the first of which belongs to a given one. -/
def placeAmong (wanted : List String) : Nat → List String → List String → Option Nat
  | _, _, [] => none
  | n, before, entry :: more =>
    let name := entryWords before entry
    if name == wanted then some n else placeAmong wanted (n + 1) name more

/-- The code point of a name in a run, given the words of the name. -/
def NameRun.find? (r : NameRun) (wanted : List String) : Option Nat :=
  placeAmong wanted r.first [] (r.lines.flatMap fun line => line.splitOn ",")

end CodeAudit
