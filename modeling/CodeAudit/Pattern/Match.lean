import CodeAudit.Pattern.Parse

/-!
# Matching

Where a pattern occurs in a text.

A tree is matched at a place by trying its possibilities in order; the first one from
which the rest of the pattern succeeds is taken. The rest is passed along as a
continuation, so that a failure further on comes back to the last choice.

The groups remember where they last began and ended. A possibility that is given up leaves
no trace in them.

A repetition without a bound would go on for ever around something that matches nothing.
So an iteration that may be left out is not begun at the place where the one before it
began, which bounds their number by the length of the text.

The occurrences in a text follow one another without overlap. An occurrence without
length may touch the one before it, unless that one had no length either.

## Main definitions

* `Pattern.Marks`: What the groups remember.
* `Pattern.Node.run`: Matches a tree, then the rest of a pattern.
* `Pattern.Regex.matchAt`: The end of the match at a place.
* `Pattern.Regex.fullMatches`: A text is matched from its start to its end.
* `Pattern.Regex.findAll`: The occurrences in a text.
-/

namespace CodeAudit

namespace Pattern

/-- The text a pattern is matched against. -/
abbrev Subject := Array Char

/-- Where the groups last began and last ended. -/
abbrev Marks := List (Nat × Option Nat × Option Nat)

namespace Marks

/-- The marks of a group. -/
def of (marks : Marks) (index : Nat) : Option Nat × Option Nat :=
  (marks.lookup index).getD (none, none)

/-- Notes where a group begins. -/
def begin (marks : Marks) (index place : Nat) : Marks :=
  (index, some place, (marks.of index).2) :: marks.filter fun m => m.1 != index

/-- Notes where a group ends. -/
def finish (marks : Marks) (index place : Nat) : Marks :=
  (index, (marks.of index).1, some place) :: marks.filter fun m => m.1 != index

/-- Where a group has matched, if it has. -/
def span? (marks : Marks) (index : Nat) : Option (Nat × Nat) :=
  match marks.of index with
  | (some b, some e) => if b ≤ e then some (b, e) else none
  | _ => none

end Marks

/-- What a successful match gives: the place where it ends, and the marks. -/
abbrev Outcome := Option (Nat × Marks)

/-- The rest of a pattern, tried from a place. -/
abbrev Rest := Nat → Marks → Outcome

/-- A word character stands at a place. -/
def wordAt (ascii : Bool) (text : Subject) (i : Nat) : Bool :=
  match text[i]? with
  | some c => CharClass.word.contains ascii c
  | none => false

/-- A word character stands before a place. -/
def wordBefore (ascii : Bool) (text : Subject) (i : Nat) : Bool :=
  i != 0 && wordAt ascii text (i - 1)

/-- A condition holds at a place. In a text without characters no place is between words,
    nor inside one. -/
def Anchor.holds (text : Subject) (i : Nat) : Anchor → Bool
  | .textStart => i == 0
  | .lineStart => i == 0 || text[i - 1]? == some '\n'
  | .textEnd => i == text.size
  | .lineEnd => i == text.size || text[i]? == some '\n'
  | .finalEnd => i == text.size || (i + 1 == text.size && text[i]? == some '\n')
  | .wordEdge negated ascii =>
    -- In an empty text neither a place between words nor one that is not between words is
    -- found.
    !text.isEmpty && ((wordBefore ascii text i != wordAt ascii text i) != negated)

/-- The character at a place passes a test. -/
def passes (text : Subject) (folding : Folding) (test : CharTest) (i : Nat) : Bool :=
  match text[i]? with
  | some c => test.accepts folding c
  | none => false

/-- The number of characters from a place on that pass a test, up to a bound. -/
def countPassing (text : Subject) (folding : Folding) (test : CharTest) : Nat → Nat → Nat → Nat
  | 0, _, n => n
  | fuel + 1, i, n =>
    if passes text folding test i then countPassing text folding test fuel (i + 1) (n + 1) else n

/-- Two characters are the same up to case. -/
def sameFolded (folding : Folding) (a b : Option Char) : Bool :=
  match a, b with
  | some a, some b => folding.fold a.toNat == folding.fold b.toNat
  | _, _ => false

/-- A part of a text occurs again at a place. -/
def repeats (text : Subject) (folding : Folding) (start place : Nat) : Nat → Bool
  | 0 => true
  | n + 1 => sameFolded folding text[start + n]? text[place + n]? && repeats text folding start place n

/-- Tries the rest from places further and further to the left. -/
def tryDown (rest : Rest) (marks : Marks) (least : Nat) : Nat → Outcome
  | 0 => rest least marks
  | n + 1 =>
    match rest (least + (n + 1)) marks with
    | some r => some r
    | none => tryDown rest marks least n

/-- Tries the rest from places further and further to the right, as long as the characters
    passed over pass a test. -/
def tryUp (text : Subject) (folding : Folding) (test : CharTest) (rest : Rest) (marks : Marks) :
    Nat → Nat → Outcome
  | 0, i => rest i marks
  | fuel + 1, i =>
    match rest i marks with
    | some r => some r
    | none =>
      if passes text folding test i then tryUp text folding test rest marks fuel (i + 1) else none

/-- A repetition of a single character. -/
def runChars (text : Subject) (folding : Folding) (test : CharTest) (greed : Greed)
    (least : Nat) (most : Option Nat) (i : Nat) (marks : Marks) (rest : Rest) : Outcome :=
  -- No more characters can be passed over than are left, so the bound is the fuel of the
  -- counting.
  let room := text.size - i
  let bound := match most with
    | some m => min m room
    | none => room
  match greed with
  | .greedy =>
    -- The longest stretch comes first, and is given back character by character.
    let n := countPassing text folding test bound i 0
    if n < least then none else tryDown rest marks (i + least) (n - least)
  | .lazy =>
    -- The characters that must be there are passed over before the rest is tried at all.
    if room < least then none
    else if countPassing text folding test least i 0 < least then none
    else tryUp text folding test rest marks (bound - least) (i + least)
  | .possessive =>
    let n := countPassing text folding test bound i 0
    if n < least then none else rest (i + n) marks

/-- The matching of a tree, followed by the rest of a pattern. -/
abbrev Step := Nat → Marks → Rest → Outcome

/-- The iterations of a repetition that must not be left out. -/
def runRequired (step : Step) (rest : Rest) : Nat → Nat → Marks → Outcome
  | 0, i, marks => rest i marks
  | n + 1, i, marks => step i marks fun j marks => runRequired step rest n j marks

/-- Another iteration may be tried: fewer than the greatest number have been made, and the
    last one did not begin here. -/
def mayRepeat (room : Option Nat) (count : Nat) (last : Option Nat) (i : Nat) : Bool :=
  (match room with
   | some n => count < n
   | none => true) && last != some i

/-- The iterations of a repetition that may be left out, as many as possible. -/
def runGreedy (step : Step) (rest : Rest) (room : Option Nat) :
    Nat → Nat → Option Nat → Nat → Marks → Outcome
  | 0, _, _, i, marks => rest i marks
  | fuel + 1, count, last, i, marks =>
    if mayRepeat room count last i then
      match step i marks fun j marks =>
          runGreedy step rest room fuel (count + 1) (some i) j marks with
      -- The iteration is given up with its marks, and the rest is tried in front of it.
      | some r => some r
      | none => rest i marks
    else rest i marks

/-- The iterations of a repetition that may be left out, as few as possible. -/
def runLazy (step : Step) (rest : Rest) (room : Option Nat) :
    Nat → Nat → Option Nat → Nat → Marks → Outcome
  | 0, _, _, i, marks => rest i marks
  | fuel + 1, count, last, i, marks =>
    match rest i marks with
    | some r => some r
    | none =>
      if mayRepeat room count last i then
        step i marks fun j marks => runLazy step rest room fuel (count + 1) (some i) j marks
      else none

/-- The first way to match a tree. -/
def firstMatch (step : Step) (i : Nat) (marks : Marks) : Outcome :=
  step i marks fun j marks => some (j, marks)

/-- A number of iterations, each matched in its first way. -/
def takeRequired (step : Step) : Nat → Nat → Marks → Outcome
  | 0, i, marks => some (i, marks)
  | n + 1, i, marks =>
    match firstMatch step i marks with
    | some (j, marks) => takeRequired step n j marks
    | none => none

/-- Iterations as long as there are any, each matched in its first way. -/
def takeAll (step : Step) (room : Option Nat) : Nat → Nat → Nat → Marks → Nat × Marks
  | 0, _, i, marks => (i, marks)
  | fuel + 1, count, i, marks =>
    if mayRepeat room count none i then
      match firstMatch step i marks with
      | some (j, newMarks) =>
        -- An iteration without length would come again for ever. It is kept, and it is the last
        -- one.
        if j == i then (j, newMarks) else takeAll step room fuel (count + 1) j newMarks
      | none => (i, marks)
    else (i, marks)

/-- A repetition of a tree. -/
def runLoop (size : Nat) (step : Step) (greed : Greed) (least : Nat) (most : Option Nat)
    (i : Nat) (marks : Marks) (rest : Rest) : Outcome :=
  let room := most.map (· - least)
  -- Iterations that may be left out begin at different places, and each of them further on.
  let fuel := size + 2
  match greed with
  | .greedy => runRequired step (fun j m => runGreedy step rest room fuel 0 none j m) least i marks
  | .lazy => runRequired step (fun j m => runLazy step rest room fuel 0 none j m) least i marks
  | .possessive =>
    match takeRequired step least i marks with
    | some (j, marks) =>
      let (j, marks) := takeAll step room fuel 0 j marks
      rest j marks
    | none => none

mutual

/-- Matches a tree at a place, then the rest of a pattern. -/
def Node.run (text : Subject) : Node → Nat → Marks → Rest → Outcome
  | .one folding test, i, marks, rest =>
    if passes text folding test i then rest (i + 1) marks else none
  | .anchor a, i, marks, rest => if a.holds text i then rest i marks else none
  | .sequence items, i, marks, rest => runSequence text items i marks rest
  | .choice options, i, marks, rest => runChoice text options i marks rest
  | .group index body, i, marks, rest =>
    Node.run text body i (marks.begin index i) fun j marks => rest j (marks.finish index j)
  | .again folding index, i, marks, rest =>
    match marks.span? index with
    | some (b, e) =>
      -- What has been matched before has to fit in what is left of the text.
      if i + (e - b) ≤ text.size && repeats text folding b i (e - b) then rest (i + (e - b)) marks
      else none
    | none => none
  | .look behind negated body, i, marks, rest =>
    -- Looking behind begins as far back as the body is long, so that it ends here.
    let distance := behind.getD 0
    let found : Outcome :=
      if distance ≤ i then Node.run text body (i - distance) marks fun j marks => some (j, marks)
      else none
    match found with
    | some (_, newMarks) => if negated then none else rest i newMarks
    | none => if negated then rest i marks else none
  | .atomic body, i, marks, rest =>
    -- The first way to match the body is the only one: the rest is tried outside of it.
    match Node.run text body i marks fun j marks => some (j, marks) with
    | some (j, marks) => rest j marks
    | none => none
  | .ifGroup index yes no, i, marks, rest =>
    if (marks.span? index).isSome then Node.run text yes i marks rest
    else Node.run text no i marks rest
  -- A single character needs no continuation, and is counted instead.
  | .loop greed least most (.one folding test), i, marks, rest =>
    runChars text folding test greed least most i marks rest
  | .loop greed least most body, i, marks, rest =>
    runLoop text.size (Node.run text body) greed least most i marks rest

/-- Matches trees one behind the other, then the rest of a pattern. -/
def runSequence (text : Subject) : List Node → Nat → Marks → Rest → Outcome
  | [], i, marks, rest => rest i marks
  | n :: more, i, marks, rest =>
    Node.run text n i marks fun j marks => runSequence text more j marks rest

/-- Matches one of several trees, the first that succeeds together with the rest of the
    pattern. -/
def runChoice (text : Subject) : List Node → Nat → Marks → Rest → Outcome
  | [], _, _, _ => none
  | n :: more, i, marks, rest =>
    match Node.run text n i marks rest with
    | some r => some r
    | none => runChoice text more i marks rest

end

/-- An occurrence of a pattern: where it starts and where it ends. -/
structure Span where
  start : Nat
  stop : Nat
deriving DecidableEq, Repr

namespace Regex

/-- The end of the match at a place. A match without length can be ruled out. -/
def matchAt (r : Regex) (text : Subject) (mayBeEmpty : Bool) (i : Nat) : Option Nat :=
  (r.tree.run text i [] fun j marks =>
    -- The longer ways to match are still tried where a match without length is ruled out.
    if !mayBeEmpty && j == i then none else some (j, marks)).map Prod.fst

/-- A text is matched from its start to its end. A way to match that ends earlier is given up
    for the next one. -/
def fullMatches (r : Regex) (text : Subject) : Bool :=
  (r.tree.run text 0 [] fun j marks =>
    if j == text.size then some (j, marks) else none).isSome

/-- The first occurrence from a place on. Only at that very place a match without length
    can be ruled out. -/
def findFrom (r : Regex) (text : Subject) : Nat → Bool → Nat → Option Span
  | 0, _, _ => none
  | fuel + 1, mayBeEmpty, i =>
    match r.matchAt text mayBeEmpty i with
    | some j => some ⟨i, j⟩
    | none => if i < text.size then findFrom r text fuel true (i + 1) else none

/-- The occurrences from a place on. -/
def findAllFrom (r : Regex) (text : Subject) : Nat → Bool → Nat → List Span
  | 0, _, _ => []
  | fuel + 1, mayBeEmpty, i =>
    match r.findFrom text (text.size + 1 - i) mayBeEmpty i with
    -- Behind an occurrence without length another one without length would be the same one.
    | some s => s :: findAllFrom r text fuel (s.start != s.stop) s.stop
    | none => []

/-- The occurrences in a text, from left to right. -/
def findAll (r : Regex) (text : Subject) : List Span :=
  -- Each place can start two occurrences, one without length and one with it.
  r.findAllFrom text (2 * text.size + 2) true 0

end Regex

end Pattern

end CodeAudit
