import CodeAudit.Text.CaseTable

/-!
# Small and Capital Letters

The case mappings of a text.

There are two of them. The mapping of a single character, `smallForm` and
`capitalForm`, always gives one character and is what a pattern uses when it
ignores case. The mapping of a text, `lowerText` and `upperText`, is the full
one: the capital form of a letter may have several characters, and a capital
sigma at the end of a word becomes the final small sigma.

## Main definitions

* `shifted`: A code point moved by the run it belongs to.
* `smallForm`, `capitalForm`: The mappings of one character to one character.
* `endsWord`: A position is the end of a word, for the form of a sigma.
* `lowerText`, `upperText`: The full mappings of a text.
* `lowered`, `uppered`: The full mappings of a string.
-/

namespace CodeAudit

/-- A code point moved by the first run of the list that contains it. The runs
    are in ascending order, so the search ends at the first one that starts
    above the code point. -/
def shifted : List CaseRun → Nat → Nat
  | [], n => n
  | r :: rest, n =>
    -- The runs further on start above the code point as well.
    if n < r.first then n
    else if n ≤ r.last && (n - r.first) % r.stride == 0 then (Int.ofNat n + r.shift).toNat
    else shifted rest n

/-- The small form of a character, as one character. -/
def smallForm (c : Char) : Char :=
  Char.ofNat (shifted lowerRuns c.toNat)

/-- The capital form of a character, as one character: the first one where the
    full form has several. -/
def capitalForm (c : Char) : Char :=
  Char.ofNat (shifted upperRuns c.toNat)

/-- The full capital form of a character. -/
def capitalChars (c : Char) : List Char :=
  match wideUpper.lookup c.toNat with
  | some ns => ns.map Char.ofNat
  | none => [capitalForm c]

/-- The first character of a text that case mapping does not pass over is a
    letter with case. -/
def meetsCased (cs : List Char) : Bool :=
  match cs.dropWhile fun c => caseIgnorableRanges.contains c.toNat with
  | [] => false
  | c :: _ => casedRanges.contains c.toNat

/-- A position ends a word when a letter with case stands before it and none
    after it. The text before the position is given in reverse. -/
def endsWord (before after : List Char) : Bool :=
  meetsCased before && !meetsCased after

/-- The full small form of a text, what stands before it given in reverse. -/
def lowerFrom (before : List Char) : List Char → List Char
  | [] => []
  | c :: rest =>
    let form : List Char :=
      -- Two letters have small forms that no run of single characters gives.
      if c == 'Σ' then [if endsWord before rest then 'ς' else 'σ']
      else if c == 'İ' then ['i', '\u0307']
      else [smallForm c]
    form ++ lowerFrom (c :: before) rest

/-- The full small form of a text. -/
def lowerText (cs : List Char) : List Char :=
  lowerFrom [] cs

/-- The full capital form of a text. -/
def upperText (cs : List Char) : List Char :=
  cs.flatMap capitalChars

/-- The full small form of a string. -/
def lowered (s : String) : String :=
  String.ofList (lowerText s.toList)

/-- The full capital form of a string. -/
def uppered (s : String) : String :=
  String.ofList (upperText s.toList)

end CodeAudit
