import CodeAudit.Yaml.Name

/-!
# Scalars in Documents

The three written forms of a scalar.

A plain scalar runs until something that cannot belong to it. A quoted scalar runs to
its closing quote, and between double quotes a backslash introduces a code. In both
forms a line end with the blanks around it counts as one space, and further line ends
count as themselves. A block scalar consists of whole lines with a common indentation;
its header says whether lines are kept apart or folded together, and what becomes of
the line ends behind the last line.

A text here is made of characters, and half of a surrogate pair is none. A code that spells one
gives U+FFFD, so texts that differ in such halves only are not told apart.

## Main definitions

* `Yaml.scanPlain`: A scalar without quotes.
* `Yaml.scanQuoted`: A scalar between quotes.
* `Yaml.scanBlock`: A scalar of whole lines.
-/

namespace CodeAudit

namespace Yaml

/-- What becomes of the line ends behind the last line of a block scalar: all go, one
    stays, or all stay. -/
inductive Chomping
  | strip
  | clip
  | keep
deriving DecidableEq, Repr

/-- The sign that stands for a way of chomping. -/
def Chomping.ofSign? : Char → Option Chomping
  | '+' => some .keep
  | '-' => some .strip
  | _ => none

/-- The name of what is read when a block scalar is at fault. -/
def blockContext : String := "while scanning a block scalar"

section

variable {ε : Type}

/-- A digit that gives the indentation of a block scalar, where one follows. -/
def scanIncrement (start : Mark) (c : Cursor ε) : Scan ε (Option Nat × Cursor ε) :=
  if c.peek == '0' then
    troubleIn blockContext start
      "expected indentation indicator in the range 1-9, but found 0" c.mark
  else if c.peek.isDigit then do return (some (c.peek.toNat - '0'.toNat), ← c.advance)
  else .ok (none, c)

/-- The indicators of a block scalar, in either order. -/
def scanIndicators (start : Mark) (c : Cursor ε) : Scan ε (Chomping × Option Nat × Cursor ε) := do
  let (chomping, increment, c) ←
    match Chomping.ofSign? c.peek with
    | some chomping => do
      let c ← c.advance
      let (increment, c) ← scanIncrement start c
      pure (chomping, increment, c)
    | none => do
      let (increment, c) ← scanIncrement start c
      -- A sign counts behind the digit only where there is one, since it would have come first.
      match increment, Chomping.ofSign? c.peek with
      | some _, some chomping => pure (chomping, increment, ← c.advance)
      | _, _ => pure (Chomping.clip, increment, c)
  if endsName c.peek then return (chomping, increment, c)
  else
    troubleIn blockContext start
      ("expected chomping or indentation indicators, but found " ++ c.shownNext) c.mark

/-- The cursor behind the spaces that lead up to a column. -/
def dropIndent (indent : Nat) (c : Cursor ε) : Scan ε (Cursor ε) :=
  -- Not all of the spaces are taken: what is indented further belongs to the text.
  c.forward (min (indent - c.column) (c.rest.takeWhile (· == ' ')).length)

/-- Empty lines, none of them indented further than a column. -/
def scanEmptyLines (indent : Nat) : Nat → Cursor ε → Scan ε (List Char × Cursor ε)
  | 0, c => .ok ([], c)
  | fuel + 1, c => do
    let c ← dropIndent indent c
    if isBreak c.peek then
      let (br, c) ← c.lineBreak
      let (rest, c) ← scanEmptyLines indent fuel c
      return (br ++ rest, c)
    else return ([], c)

/-- Empty lines of any indentation, the largest indentation among them, and the cursor
    behind the spaces that follow. -/
def scanLeadingLines : Nat → Nat → Cursor ε → Scan ε (List Char × Nat × Cursor ε)
  | 0, widest, c => .ok ([], widest, c)
  | fuel + 1, widest, c =>
    if c.peek == ' ' then do
      let c ← c.advance
      scanLeadingLines fuel (max widest c.column) c
    else if isBreak c.peek then do
      let (br, c) ← c.lineBreak
      let (rest, widest, c) ← scanLeadingLines fuel widest c
      return (br ++ rest, widest, c)
    else .ok ([], widest, c)

/-- The lines of a block scalar. Given are the line ends before the next line and the
    text so far in reverse; the result is the text, the end of the last line, and the
    line ends behind it. -/
def scanBlockLines (folded : Bool) (indent : Nat) :
    Nat → List Char → List Char → Cursor ε →
      Scan ε (List Char × List Char × List Char × Cursor ε)
  | 0, breaks, acc, c => .ok (acc.reverse, [], breaks, c)
  | fuel + 1, breaks, acc, c =>
    -- A line that begins further to the left ends the scalar.
    if c.column == indent && c.peek != '\x00' then do
      let indented := c.peek == ' ' || c.peek == '\t'
      let (line, c) ← c.takeWhile fun x => !endsLine x
      let acc := line.reverse ++ breaks.reverse ++ acc
      let (br, c) ← c.lineBreak
      let (more, c) ← scanEmptyLines indent (c.rest.length + 1) c
      if c.column == indent && c.peek != '\x00' then
        let nextIndented := c.peek == ' ' || c.peek == '\t'
        let acc :=
          -- Two lines become one with a space between them. Empty lines between them stay, and
          -- lines that are indented further keep their own ends.
          if folded && br == ['\n'] && !indented && !nextIndented then
            if more.isEmpty then ' ' :: acc else acc
          else br.reverse ++ acc
        scanBlockLines folded indent fuel more acc c
      else return (acc.reverse, br, more, c)
    else .ok (acc.reverse, [], breaks, c)

/-- The line ends in front of the first line of a block scalar, and the column of its lines, which
    is given by an increment or by the lines. The column is one that they have at least. -/
def scanColumn (least : Nat) (increment : Option Nat) (c : Cursor ε) :
    Scan ε (List Char × Nat × Cursor ε) := do
  let fuel := c.rest.length + 1
  match increment with
  -- What is written is counted from the parent.
  | some n =>
    let column := least + n - 1
    let (breaks, c) ← scanEmptyLines column fuel c
    return (breaks, column, c)
  | none =>
    -- Otherwise the first line that is not empty gives it, and an empty line may be wider.
    let (breaks, widest, c) ← scanLeadingLines fuel 0 c
    return (breaks, max least widest, c)

/-- A block scalar, whose indicator stands at the cursor, under an indentation. -/
def scanBlock (indent : Int) (c : Cursor ε) : Scan ε (Token × Cursor ε) := do
  let start := c.mark
  let folded := c.peek == '>'
  let c ← c.advance
  let (chomping, increment, c) ← scanIndicators start c
  let c ← scanLineRest blockContext start c
  -- The indentation is that of the parent at least, or one where there is none.
  let (breaks, column, c) ← scanColumn (max (indent + 1).toNat 1) increment c
  let (text, last, breaks, c) ←
    scanBlockLines folded column (c.rest.length + 1) breaks [] c
  let text :=
    match chomping with
    | .strip => text
    | .clip => text ++ last
    | .keep => text ++ last ++ breaks
  return (⟨.scalar (String.ofList text) false, start, c.mark⟩, c)

end

/-- The character that a letter stands for behind a backslash. -/
def escapedBy? : Char → Option Char
  | '0' => some '\x00'
  | 'a' => some '\x07'
  | 'b' => some '\x08'
  | 't' => some '\t'
  | '\t' => some '\t'
  | 'n' => some '\n'
  | 'v' => some '\x0b'
  | 'f' => some '\x0c'
  | 'r' => some '\r'
  | 'e' => some '\x1b'
  | ' ' => some ' '
  | '"' => some '"'
  | '\\' => some '\\'
  | '/' => some '/'
  | 'N' => some '\x85'
  | '_' => some '\xa0'
  | 'L' => some '\u2028'
  | 'P' => some '\u2029'
  | _ => none

/-- The number of digits of a code behind a letter. -/
def codeWidth? : Char → Option Nat
  | 'x' => some 2
  | 'u' => some 4
  | 'U' => some 8
  | _ => none

/-- The name of what is read when a double-quoted scalar is at fault. -/
def doubleContext : String := "while scanning a double-quoted scalar"

section

variable {ε : Type}

/-- The character with a code. A code of the surrogate range gives U+FFFD. -/
def charOfCode (n : Nat) : Scan ε Char :=
  if n > 0x7FFFFFFF then .error (.defect .tooLarge)
  else if n > 0x10FFFF then .error (.defect (.badValue "chr() arg not in range(0x110000)"))
  else if 0xD800 ≤ n && n < 0xE000 then .ok '\uFFFD'
  else .ok (Char.ofNat n)

/-- The first of a number of characters from a distance on that is no hexadecimal digit. -/
def otherThanDigit? (c : Cursor ε) : Nat → Nat → Scan ε (Option Char)
  | 0, _ => .ok none
  | width + 1, k => do
    let x ← c.lookAhead k
    if isHexDigit x then otherThanDigit? c width (k + 1) else return some x

/-- A code of a number of hexadecimal digits. -/
def scanCode (start : Mark) (width : Nat) (c : Cursor ε) : Scan ε (Char × Cursor ε) := do
  match ← otherThanDigit? c width 0 with
  | some x =>
    troubleIn doubleContext start
      ("expected escape sequence of " ++ toString width ++ " hexadecimal numbers, but found " ++
        shownChar x) c.mark
  | none =>
    let x ← charOfCode (hexNumber (c.rest.take width))
    return (x, ← c.forward width)

/-- The name of what is read when a quoted scalar is at fault. -/
def quotedContext : String := "while scanning a quoted scalar"

/-- Line ends inside a quoted scalar, with the blanks around them. -/
def scanQuotedBreaks (start : Mark) : Nat → Cursor ε → Scan ε (List Char × Cursor ε)
  | 0, c => .ok ([], c)
  | fuel + 1, c => do
    let separates ← c.atSeparator
    -- A separator of documents at the start of a line would cut the scalar in two.
    if separates then
      troubleIn quotedContext start "found unexpected document separator" c.mark
    else
      let c ← c.dropWhile fun x => x == ' ' || x == '\t'
      if isBreak c.peek then
        let (br, c) ← c.lineBreak
        let (rest, c) ← scanQuotedBreaks start fuel c
        return (br ++ rest, c)
      else return ([], c)

/-- What a backslash between double quotes stands for. -/
def scanEscape (start : Mark) (c : Cursor ε) : Scan ε (List Char × Cursor ε) :=
  match escapedBy? c.peek with
  | some x => do return ([x], ← c.advance)
  | none =>
    match codeWidth? c.peek with
    | some width => do
      let c ← c.advance
      let (x, c) ← scanCode start width c
      return ([x], c)
    | none =>
      -- A backslash at the end of a line joins the lines without a space.
      if isBreak c.peek then do
        let (_, c) ← c.lineBreak
        scanQuotedBreaks start (c.rest.length + 1) c
      else
        troubleIn doubleContext start
          ("found unknown escape character " ++ c.shownNext) c.mark

end

/-- A character stands for itself between either kind of quotes. -/
def isQuotedChar (c : Char) : Bool :=
  !(endsWord c || c == '\'' || c == '"' || c == '\\')

/-- A character ends a plain scalar wherever it stands. Inside a flow collection the indicators of
    such collections do. -/
def endsPlain (inFlow : Bool) (x : Char) : Bool :=
  endsWord x || (inFlow && ",?[]\x7b\x7d".toList.contains x)

/-- A colon ends a plain scalar in front of what could be a value. -/
def endsBehindColon (inFlow : Bool) (next : Char) : Bool :=
  endsWord next || (inFlow && ",[]\x7b\x7d".toList.contains next)

section

variable {ε : Type}

/-- What a sign in a quoted scalar stands for, and nothing if it ends a word of the scalar. -/
def scanQuotedSign (double : Bool) (start : Mark) (c : Cursor ε) :
    Scan ε (Option (List Char × Cursor ε)) := do
  if double && c.peek == '\\' then
    let c ← c.advance
    return some (← scanEscape start c)
  -- Each kind of quotes lets the other kind stand for itself.
  else if (double && c.peek == '\'') || (!double && (c.peek == '"' || c.peek == '\\')) then
    return some ([c.peek], ← c.advance)
  else if !double && c.peek == '\'' then
    let next ← c.lookAhead 1
    -- A quote that is written twice stands for itself.
    if next == '\'' then return some (['\''], ← c.forward 2) else return none
  else return none

/-- The text between quotes up to a blank, a line end or the closing quote. -/
def scanQuotedWord (double : Bool) (start : Mark) : Nat → Cursor ε → Scan ε (List Char × Cursor ε)
  | 0, c => .ok ([], c)
  | fuel + 1, c => do
    let (text, c) ← c.takeWhile isQuotedChar
    match ← scanQuotedSign double start c with
    | none => return (text, c)
    | some (more, c) =>
      let (rest, c) ← scanQuotedWord double start fuel c
      return (text ++ more ++ rest, c)

/-- Blanks and line ends between quotes. -/
def scanQuotedSpaces (start : Mark) (c : Cursor ε) : Scan ε (List Char × Cursor ε) := do
  let (spaces, c) ← c.takeWhile fun x => x == ' ' || x == '\t'
  if c.peek == '\x00' then
    troubleIn quotedContext start "found unexpected end of stream" c.mark
  else if isBreak c.peek then
    let (br, c) ← c.lineBreak
    let (more, c) ← scanQuotedBreaks start (c.rest.length + 1) c
    -- One line end alone counts as a space, and others are kept but for the first.
    let first := if br != ['\n'] then br else if more.isEmpty then [' '] else []
    return (first ++ more, c)
  else return (spaces, c)

/-- The text up to the closing quote, of which a part has been read. -/
def scanQuotedRest (double : Bool) (quote : Char) (start : Mark) :
    Nat → List Char → Cursor ε → Scan ε (List Char × Cursor ε)
  | 0, acc, c => .ok (acc, c)
  | fuel + 1, acc, c =>
    if c.peek == quote then do return (acc, ← c.advance)
    else do
      let (spaces, c) ← scanQuotedSpaces start c
      let (word, c) ← scanQuotedWord double start (c.rest.length + 1) c
      scanQuotedRest double quote start fuel (acc ++ spaces ++ word) c

/-- A quoted scalar, whose opening quote stands at the cursor. -/
def scanQuoted (c : Cursor ε) : Scan ε (Token × Cursor ε) := do
  let start := c.mark
  let quote := c.peek
  let double := quote == '"'
  let c ← c.advance
  let (word, c) ← scanQuotedWord double start (c.rest.length + 1) c
  -- Each round takes a word, so there are no more rounds than characters.
  let (text, c) ← scanQuotedRest double quote start (c.rest.length + 2) word c
  return (⟨.scalar (String.ofList text) false, start, c.mark⟩, c)

/-- The characters of a text that belong to a plain scalar, with the failure behind the text where
    it is cut off. -/
def plainWord (inFlow : Bool) (failure : Option (LoadError ε)) : List Char → Scan ε (List Char)
  | [] => do
    let _ ← Cursor.firstOf failure []
    return []
  | x :: rest =>
    if endsPlain inFlow x then .ok []
    -- Only behind a colon one more character is looked at.
    else if x == ':' then do
      let next ← Cursor.firstOf failure rest
      if endsBehindColon inFlow next then return []
      else return x :: (← plainWord inFlow failure rest)
    else do return x :: (← plainWord inFlow failure rest)

/-- Empty lines behind a line of a plain scalar. Nothing is given if they lead to a
    separator of documents. -/
def scanPlainBreaks : Nat → Cursor ε → Scan ε (Option (List Char) × Cursor ε)
  | 0, c => .ok (some [], c)
  | fuel + 1, c =>
    if c.peek == ' ' then do
      let c ← c.advance
      scanPlainBreaks fuel c
    else if isBreak c.peek then do
      let (br, c) ← c.lineBreak
      let separates ← c.atSeparator
      if separates then return (none, c)
      else
        let (rest, c) ← scanPlainBreaks fuel c
        return (rest.map (br ++ ·), c)
    else .ok (some [], c)

/-- What stands between two words of a plain scalar: the text that it counts as,
    whether a line ended, and the cursor behind it. No text means that the scalar does
    not go on. -/
def scanPlainSpaces (c : Cursor ε) : Scan ε (List Char × Bool × Cursor ε) := do
  let (spaces, c) ← c.takeWhile (· == ' ')
  if isBreak c.peek then
    let (br, c) ← c.lineBreak
    let separates ← c.atSeparator
    if separates then return ([], true, c)
    else
      match ← scanPlainBreaks (c.rest.length + 1) c with
      | (none, c) => return ([], true, c)
      | (some more, c) =>
        let first := if br != ['\n'] then br else if more.isEmpty then [' '] else []
        return (first ++ more, true, c)
  else return (spaces, false, c)

/-- The words of a plain scalar, of which a part has been read, with the space before
    the next word. The flag says that the space before it holds a line end. -/
def scanPlainWords (inFlow : Bool) (indent : Int) :
    Nat → List Char → List Char → Bool → Cursor ε → Scan ε (List Char × Bool × Cursor ε)
  | 0, acc, _, crossed, c => .ok (acc, crossed, c)
  | fuel + 1, acc, spaces, crossed, c => do
    -- A comment starts where a word could start, and never inside of one.
    let word ← if c.peek == '#' then pure [] else plainWord inFlow c.failure c.rest
    if word.isEmpty then return (acc, crossed, c)
    else
      let acc := acc ++ spaces ++ word
      let c ← c.forward word.length
      let (spaces, crossed, c) ← scanPlainSpaces c
      -- Where nothing stands in between, the word was ended by a sign, and so is the scalar.
      if spaces.isEmpty || c.peek == '#' || (!inFlow && (c.column : Int) < indent) then
        return (acc, crossed, c)
      else scanPlainWords inFlow indent fuel acc spaces crossed c

/-- A plain scalar under an indentation, and whether a line ended behind it. -/
def scanPlain (inFlow : Bool) (indent : Int) (c : Cursor ε) :
    Scan ε (Token × Bool × Cursor ε) := do
  let start := c.mark
  let (text, crossed, c) ←
    scanPlainWords inFlow (indent + 1) (c.rest.length + 1) [] [] false c
  return (⟨.scalar (String.ofList text) true, start, c.mark⟩, crossed, c)

end

end Yaml

end CodeAudit
