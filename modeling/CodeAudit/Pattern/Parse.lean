import CodeAudit.Pattern.Syntax
import CodeAudit.Text.CharName
import CodeAudit.Text.Identifier
import CodeAudit.Value.Fault

/-!
# Reading Patterns

The tree of a written regular expression.

A pattern is read from the left by recursive descent. It is first cut into marks: single
characters, and characters behind a backslash. A backslash at the very end is an error,
which is found as soon as the mark in front of it has been taken.

Some mistakes can be told only at the end: a reference to a group that never comes, and a
look behind at something without a fixed length. They do not hide a mistake of another
kind further to the right.

## Main definitions

* `Pattern.ParseError`: Why a text is no pattern.
* `Pattern.Switches`: The switches a part of a pattern is read under.
* `Pattern.parse`: The tree of a pattern.
-/

namespace CodeAudit

namespace Pattern

/-- Why a text is no pattern. -/
inductive ParseError
  /-- The text is not a regular expression. -/
  | malformed
  /-- A number in the text is too large to be meant. -/
  | tooLarge
  /-- A number in the text has too many digits to be read. -/
  | tooLong (digits : Nat)
  /-- Two switches exclude one another. -/
  | conflict
deriving DecidableEq, Repr

/-- The message of an error. -/
def ParseError.text : ParseError → String
  | .malformed => "not a regular expression"
  | .tooLarge => "the repetition number is too large"
  | .tooLong digits => (Fault.integerTooLong digits).text
  | .conflict => "ASCII and UNICODE flags are incompatible"

/-- A mark of a pattern. -/
inductive Sign
  | plain (c : Char)
  | escaped (c : Char)
  /-- A backslash at the very end. -/
  | dangling
deriving DecidableEq, Repr

/-- The marks of a text. -/
def signs : List Char → List Sign
  | [] => []
  | ['\\'] => [.dangling]
  | '\\' :: c :: rest => .escaped c :: signs rest
  | c :: rest => .plain c :: signs rest

/-- The switches a part of a pattern is read under. -/
structure Switches where
  ignoreCase : Bool := false
  lineAnchors : Bool := true
  dotAll : Bool := false
  verbose : Bool := false
  ascii : Bool := false
deriving DecidableEq, Repr

/-- How the letters of a part of a pattern are compared. -/
def Switches.folding (s : Switches) : Folding :=
  if s.ignoreCase then (if s.ascii then .ascii else .unicode) else .none

/-- What is known while a pattern is read: the marks to come, the switches of the whole
    pattern, the groups opened so far and those closed with their widths, the names of
    groups, and what has to be looked at in the end. -/
structure Progress where
  rest : List Sign
  whole : Switches := {}
  sawAscii : Bool := false
  sawUnicode : Bool := false
  noLoops : Bool := false
  opened : Nat := 0
  closed : GroupWidths := []
  names : List (String × Nat) := []
  /-- Inside a look behind, the number of groups that were opened before it. -/
  openedBefore : Option Nat := none
  /-- The greatest number of a group that a condition refers to. -/
  awaited : Nat := 0
  /-- A mistake that is told if nothing else is wrong. -/
  flawed : Bool := false

/-- A step in reading a pattern. -/
abbrev Parse := StateT Progress (Except ParseError)

namespace Parse

/-- Ends the reading. -/
def fail {α : Type} (e : ParseError) : Parse α := fun _ => .error e

/-- Ends the reading with a mistake in the pattern. -/
def wrong {α : Type} : Parse α := fail .malformed

/-- Goes on with the given marks. -/
def goTo (rest : List Sign) : Parse Unit := fun s =>
  match rest with
  -- The mark behind the one that is taken is looked at early, so the backslash at the end is
  -- found here.
  | .dangling :: _ => .error .malformed
  | _ => .ok ((), { s with rest })

/-- The next mark. -/
def peek : Parse (Option Sign) := do
  return (← get).rest.head?

/-- Takes the next mark. -/
def next : Parse (Option Sign) := do
  match (← get).rest with
  | [] => return none
  | t :: rest =>
    goTo rest
    return some t

/-- Takes the next mark if it is a given character. -/
def accept (c : Char) : Parse Bool := do
  if (← peek) == some (.plain c) then
    let _ ← next
    return true
  else return false

/-- Takes the next mark, which has to be a given character. -/
def expect (c : Char) : Parse Unit := do
  if ← accept c then return () else wrong

/-- Takes characters that satisfy a test, up to a number of them. -/
def takeWhile (test : Char → Bool) : Nat → Parse (List Char)
  | 0 => return []
  | n + 1 => do
    match ← peek with
    | some (.plain c) =>
      if test c then
        let _ ← next
        -- At most the given number is taken, even where more of them follow.
        return c :: (← takeWhile test n)
      else return []
    | _ => return []

/-- The number of marks to come, which bounds all loops. -/
def bound : Parse Nat := do
  return (← get).rest.length + 1

/-- The characters of a mark as they were written. -/
def written : Sign → List Char
  | .plain c => [c]
  | .escaped c => ['\\', c]
  | .dangling => ['\\']

/-- The text up to a character that ends it. -/
def untilChar (stop : Char) : Nat → List Char → Parse (List Char)
  | 0, _ => wrong
  | fuel + 1, acc => do
    match ← next with
    | none => wrong
    | some t =>
      -- The character that ends the text is taken with it, and is no part of it.
      if t == .plain stop then return acc
      else untilChar stop fuel (acc ++ written t)

/-- A name up to a character that ends it. -/
def name (stop : Char) : Parse (List Char) := do
  let cs ← untilChar stop (← bound) []
  if cs.isEmpty then wrong else return cs

end Parse

/-- An octal digit. -/
def isOctal (c : Char) : Bool :=
  '0' ≤ c && c ≤ '7'

/-- The number written by octal digits. -/
def octalNumber (cs : List Char) : Nat :=
  cs.foldl (fun n c => 8 * n + (c.toNat - '0'.toNat)) 0

/-- The code point behind a letter for one, given in hexadecimal. -/
def hexEscape (width : Nat) : Parse Nat := do
  let digits ← Parse.takeWhile isHexDigit width
  if digits.length != width then Parse.wrong
  else
    let n := hexNumber digits
    -- Beyond the first limit it is a mistake of another kind, which does not pass for a
    -- malformed text.
    if n > 0x7FFFFFFF then Parse.fail .tooLarge
    else if n > 0x10FFFF then Parse.wrong
    else return n

/-- The code point of a name between braces. -/
def namedEscape : Parse Nat := do
  Parse.expect '\x7b'
  let cs ← Parse.name '\x7d'
  match charNamed? (String.ofList cs) with
  | some n => return n
  | none => Parse.wrong

/-- The code point of a control character behind a backslash. -/
def controlEscape? : Char → Option Nat
  | 'a' => some 7
  | 'f' => some 12
  | 'n' => some 10
  | 'r' => some 13
  | 't' => some 9
  | 'v' => some 11
  | '\\' => some 92
  | _ => none

/-- The class of characters behind a backslash, and whether it is negated. -/
def classEscape? : Char → Option (CharClass × Bool)
  | 'd' => some (.digit, false)
  | 'D' => some (.digit, true)
  | 's' => some (.blank, false)
  | 'S' => some (.blank, true)
  | 'w' => some (.word, false)
  | 'W' => some (.word, true)
  | _ => none

/-- The code point that a letter introduces, where it is one of the letters that do. -/
def codeEscape? : Char → Option (Parse Nat)
  | 'x' => some (hexEscape 2)
  | 'u' => some (hexEscape 4)
  | 'U' => some (hexEscape 8)
  | 'N' => some namedEscape
  | _ => none

/-- A member of a class behind a backslash. -/
def itemEscape (ascii : Bool) (c : Char) : Parse ClassItem := do
  match controlEscape? c, classEscape? c, codeEscape? c with
  | some n, _, _ => return .char n
  | none, some (k, negated), _ => return .kind k negated ascii
  | none, none, some read => return .char (← read)
  | none, none, none =>
    -- Inside a class there are no edges of words, so the letter has its older meaning.
    if c == 'b' then return .char 8
    else if isOctal c then
      let n := octalNumber (c :: (← Parse.takeWhile isOctal 2))
      if n > 255 then Parse.wrong else return .char n
    -- Letters without a meaning are kept for later, and any other character stands for itself.
    else if c.isAlphanum then Parse.wrong
    else return .char c.toNat

/-- The anchor behind a backslash. -/
def anchorEscape? (ascii : Bool) : Char → Option Anchor
  | 'A' => some .textStart
  | 'Z' => some .textEnd
  | 'b' => some (.wordEdge false ascii)
  | 'B' => some (.wordEdge true ascii)
  | _ => none

/-- A reference to a group that is closed. Inside a look behind it has to be closed before
    that. -/
def checkReference (index : Nat) : Parse Unit := do
  let s ← get
  match s.openedBefore with
  | none => return ()
  | some before =>
    -- A group that was opened inside the look behind has not matched when its body is read.
    if (s.closed.lookup index).isNone || index > before then Parse.wrong else return ()

/-- What a group matched, once more. -/
def reference (switches : Switches) (index : Nat) : Parse Node := do
  let s ← get
  if index > s.opened || (s.closed.lookup index).isNone then Parse.wrong
  else
    checkReference index
    return .again switches.folding index

/-- A number behind a backslash: three octal digits are a code point, and anything else is a
    reference to a group. -/
def numberEscape (switches : Switches) (c : Char) : Parse Node := do
  match ← Parse.takeWhile Char.isDigit 1 with
  | [] => reference switches (decimalNat [c])
  | d :: _ =>
    -- The third digit decides: with it the number is a code point, and without it a group.
    let more ← if isOctal c && isOctal d then Parse.takeWhile isOctal 1 else pure []
    match more with
    | [] => reference switches (decimalNat [c, d])
    | e :: _ =>
      let n := octalNumber [c, d, e]
      if n > 255 then Parse.wrong else return .one switches.folding (.char n)

/-- What a character behind a backslash stands for outside a class. -/
def escape (switches : Switches) (c : Char) : Parse Node := do
  let one (test : CharTest) : Node := .one switches.folding test
  match anchorEscape? switches.ascii c, classEscape? c, controlEscape? c, codeEscape? c with
  | some a, _, _, _ => return .anchor a
  | none, some (k, negated), _, _ =>
    return one (.oneOf [.kind k negated switches.ascii] false)
  | none, none, some n, _ => return one (.char n)
  | none, none, none, some read => return one (.char (← read))
  | none, none, none, none =>
    -- A zero never starts the number of a group, so up to two more digits are taken at once.
    if c == '0' then
      return one (.char (octalNumber (← Parse.takeWhile isOctal 2)))
    else if c.isDigit then numberEscape switches c
    else if c.isAlpha then Parse.wrong
    else return one (.char c.toNat)

/-- A member of a class that starts with a mark. -/
def classItem (ascii : Bool) : Sign → Parse ClassItem
  | .plain c => return .char c.toNat
  | .escaped c => itemEscape ascii c
  | .dangling => Parse.wrong

/-- The range from one member of a class to another. -/
def classRange : ClassItem → ClassItem → Parse ClassItem
  | .char lo, .char hi => if hi < lo then Parse.wrong else return .range lo hi
  | _, _ => Parse.wrong

/-- The members of a class up to its closing bracket. -/
def classItems (ascii : Bool) : Nat → List ClassItem → Parse (List ClassItem)
  | 0, _ => Parse.wrong
  | fuel + 1, items => do
    match ← Parse.next with
    | none => Parse.wrong
    | some t =>
      -- A bracket right behind the opening one is a member, since a class has at least one.
      if t == .plain ']' && !items.isEmpty then return items.reverse
      else
        let first ← classItem ascii t
        if ← Parse.accept '-' then
          match ← Parse.next with
          | none => Parse.wrong
          | some u =>
            -- A minus in front of the closing bracket stands for itself.
            if u == .plain ']' then return (.char '-'.toNat :: first :: items).reverse
            else
              let last ← classItem ascii u
              let range ← classRange first last
              classItems ascii fuel (range :: items)
        else classItems ascii fuel (first :: items)

/-- A class behind its opening bracket. -/
def parseClass (switches : Switches) : Parse Node := do
  let negated ← Parse.accept '^'
  let items ← classItems switches.ascii (← Parse.bound) []
  let test : CharTest :=
    -- A class with one member is the test for that character, which is matched faster.
    match items.eraseDups with
    | [.char n] => if negated then .notChar n else .char n
    | items => .oneOf items negated
  return .one switches.folding test

/-- The greatest number of a repetition, from which on it has no bound. -/
def loopLimit : Nat := 4294967295

/-- A number of a repetition. -/
def loopNumber (digits : List Char) : Parse Nat :=
  if digits.length > digitLimit then Parse.fail (.tooLong digits.length)
  else
    let n := decimalNat digits
    -- The limit itself is taken to mean that there is no bound, so it cannot be written.
    if n ≥ loopLimit then Parse.fail .tooLarge else return n

/-- The numbers of a repetition behind its opening brace. Nothing is given, and nothing
    taken, if the brace stands for itself. -/
def loopNumbers : Parse (Option (Nat × Option Nat)) := do
  let here := (← get).rest
  if (← Parse.peek) == some (.plain '\x7d') then return none
  else
    let fuel ← Parse.bound
    let lo ← Parse.takeWhile Char.isDigit fuel
    let hi ← if ← Parse.accept ',' then Parse.takeWhile Char.isDigit fuel else pure lo
    if ← Parse.accept '\x7d' then
      let least ← if lo.isEmpty then pure 0 else loopNumber lo
      if hi.isEmpty then return some (least, none)
      else
        let most ← loopNumber hi
        if most < least then Parse.wrong else return some (least, some most)
    -- Without a closing brace these were no numbers, and all that was taken is put back.
    else
      Parse.goTo here
      return none

/-- The numbers of a repetition that starts with a character, where it starts one. -/
def loopStart (c : Char) : Parse (Option (Nat × Option Nat)) := do
  if c == '?' then return some (0, some 1)
  else if c == '*' then return some (0, none)
  else if c == '+' then return some (1, none)
  else if c == '\x7b' then loopNumbers
  else return none

/-- A tree can be repeated: it is neither an anchor nor a repetition. -/
def isRepeatable : Node → Bool
  | .anchor _ | .loop _ _ _ _ => false
  | _ => true

/-- A tree without the sequence around it, where it stands alone in one. -/
def unwrapped : Node → Node
  | .sequence [n] => n
  | n => n

/-- How greedy a repetition is. Behind a question mark a plus is not looked for: it would be a
    repetition of its own. -/
def greediness : Parse Greed := do
  if ← Parse.accept '?' then return .lazy
  else do
    if ← Parse.accept '+' then return .possessive else return .greedy

/-- Repeats the tree before a repetition. -/
def repeatLast (least : Nat) (most : Option Nat) : List Node → Parse (List Node)
  | [] => Parse.wrong
  | item :: items =>
    if !isRepeatable item then Parse.wrong
    else do
      let greed ← greediness
      -- The mistake is told at the end, so that a mistake of another kind further on comes
      -- first.
      if (← get).noLoops then modify fun s => { s with flawed := true }
      return .loop greed least most (unwrapped item) :: items

/-- The switches that letters stand for. -/
inductive Switch
  | ignoreCase
  | lineAnchors
  | dotAll
  | verbose
  | ascii
  | unicode
  | noLoops
deriving DecidableEq, Repr

/-- The switch a letter stands for. -/
def Switch.ofLetter? : Char → Option Switch
  | 'i' => some .ignoreCase
  | 'm' => some .lineAnchors
  | 's' => some .dotAll
  | 'x' => some .verbose
  | 'a' => some .ascii
  | 'u' => some .unicode
  | 't' => some .noLoops
  | _ => none

/-- A switch chooses between all letters and the ASCII letters. -/
def Switch.isScript : Switch → Bool
  | .ascii | .unicode => true
  | _ => false

/-- Turns a switch on. -/
def Switches.turnOn (s : Switches) : Switch → Switches
  | .ignoreCase => { s with ignoreCase := true }
  | .lineAnchors => { s with lineAnchors := true }
  | .dotAll => { s with dotAll := true }
  | .verbose => { s with verbose := true }
  | .ascii => { s with ascii := true }
  | .unicode => { s with ascii := false }
  | .noLoops => s

/-- Turns a switch off. -/
def Switches.turnOff (s : Switches) : Switch → Switches
  | .ignoreCase => { s with ignoreCase := false }
  | .lineAnchors => { s with lineAnchors := false }
  | .dotAll => { s with dotAll := false }
  | .verbose => { s with verbose := false }
  | _ => s

/-- The switches at the start of a group that are turned on, and the character behind
    them. -/
def switchesOn : Nat → Char → List Switch → Parse (List Switch × Char)
  | 0, _, _ => Parse.wrong
  | fuel + 1, c, on => do
    match Switch.ofLetter? c with
    | none => Parse.wrong
    | some switch =>
      -- Two choices of letters exclude one another within one group of switches.
      if switch.isScript && on.any (fun other => other.isScript && other != switch) then Parse.wrong
      else
        match ← Parse.next with
        | some (.plain d) =>
          if d == ')' || d == '-' || d == ':' then return (on ++ [switch], d)
          else switchesOn fuel d (on ++ [switch])
        | _ => Parse.wrong

/-- The switches behind a minus that are turned off, up to the colon. -/
def switchesOff : Nat → List Switch → Parse (List Switch)
  | 0, _ => Parse.wrong
  | fuel + 1, off => do
    match ← Parse.next with
    | some (.plain c) =>
      if c == ':' && !off.isEmpty then return off
      else
        match Switch.ofLetter? c with
        | none => Parse.wrong
        | some switch =>
          if switch.isScript then Parse.wrong else switchesOff fuel (off ++ [switch])
    | _ => Parse.wrong

/-- The switches at the start of a group: those of the whole pattern, or those turned on and
    off for the group. -/
def parseSwitches (c : Char) : Parse (List Switch ⊕ (List Switch × List Switch)) := do
  let fuel ← Parse.bound
  let (on, stop) ← if c == '-' then pure ([], '-') else switchesOn fuel c []
  if stop == ')' then return .inl on
  -- This switch belongs to the whole pattern and cannot be turned on for a part of it.
  else if on.contains .noLoops then Parse.wrong
  else
    let off ← if stop == '-' then switchesOff fuel [] else pure []
    if off.contains .noLoops || on.any off.contains then Parse.wrong
    else return .inr (on, off)

/-- Turns switches on for the whole pattern. -/
def setWhole (on : List Switch) : Parse Unit :=
  modify fun s =>
    { s with
      whole := on.foldl Switches.turnOn s.whole
      sawAscii := s.sawAscii || on.contains .ascii
      sawUnicode := s.sawUnicode || on.contains .unicode
      noLoops := s.noLoops || on.contains .noLoops }

/-- Blanks that mean nothing in a verbose pattern. -/
def isLayout (c : Char) : Bool :=
  c == ' ' || (9 ≤ c.toNat && c.toNat ≤ 13)

/-- Passes over a comment up to the end of its line. -/
def skipLine : Nat → Parse Unit
  | 0 => return ()
  | fuel + 1 => do
    match ← Parse.next with
    | none => return ()
    | some t => if t == .plain '\n' then return () else skipLine fuel

/-- Passes over a comment in a group. -/
def skipGroup : Nat → Parse Unit
  | 0 => Parse.wrong
  | fuel + 1 => do
    match ← Parse.next with
    | none => Parse.wrong
    | some t => if t == .plain ')' then return () else skipGroup fuel

/-- The number of the group a condition asks for, by name or by number. -/
def conditionGroup (cs : List Char) : Parse Nat := do
  if isIdentifier cs then
    match (← get).names.lookup (String.ofList cs) with
    | some index => return index
    | none => Parse.wrong
  else
    match readInteger cs with
    | .ok i =>
      -- Numbers from the limit on are refused before it is asked whether the group exists.
      if i ≤ 0 || i ≥ 1073741823 then Parse.wrong
      else
        -- The group may come later, so only the greatest number is kept and compared at the
        -- end.
        modify fun s => { s with awaited := max s.awaited i.toNat }
        return i.toNat
    | .error _ => Parse.wrong

/-- Opens a group, under a name if it has one, and gives its number. -/
def openGroup (name : Option (List Char)) : Parse Nat := do
  let index := (← get).opened + 1
  modify fun s => { s with opened := index }
  match name with
  | none => return index
  | some cs =>
    -- The number has been given away when the name turns out to be taken.
    let name := String.ofList cs
    if ((← get).names.lookup name).isSome then Parse.wrong
    else
      modify fun s => { s with names := (name, index) :: s.names }
      return index

/-- Closes a group. -/
def closeGroup (index : Nat) (body : Node) : Parse Unit :=
  modify fun s => { s with closed := (index, body.width s.closed) :: s.closed }

/-- A look at what stands behind. What is looked for has to have a fixed length. -/
def lookBehind (negated : Bool) (body : Node) : Parse Node := do
  let w := body.width (← get).closed
  -- Lengths are compared at once, and a difference is told of at the end.
  if w.least != w.greatest || w.least > 4294967295 then
    modify fun s => { s with flawed := true }
  return .look (some w.least) negated body

/-- How a group starts behind its opening parenthesis. -/
inductive GroupStart
  /-- A comment, or switches for the whole pattern: nothing is to be matched. -/
  | nothing
  /-- A tree that is complete. -/
  | whole (n : Node)
  /-- A group that remembers what it matches. -/
  | remember (name : Option (List Char))
  /-- A group under switches of its own, or under those around it. -/
  | bare (switches : Switches)
  | atomic
  | look (behind negated : Bool)
  | condition (index : Nat)

/-- A name of a group, which has to be an identifier. -/
def groupName (stop : Char) : Parse (List Char) := do
  let cs ← Parse.name stop
  if isIdentifier cs then return cs else Parse.wrong

/-- The start of a group with a name, or a reference by name. -/
def namedStart (switches : Switches) : Parse GroupStart := do
  if ← Parse.accept '<' then return .remember (some (← groupName '>'))
  else if ← Parse.accept '=' then
    let cs ← groupName ')'
    match (← get).names.lookup (String.ofList cs) with
    | none => Parse.wrong
    | some index => return .whole (← reference switches index)
  else Parse.wrong

/-- The start of a look behind. -/
def behindStart : Parse GroupStart := do
  match ← Parse.next with
  | some (.plain '=') => return .look true false
  | some (.plain '!') => return .look true true
  | _ => Parse.wrong

/-- The start of a group with switches. -/
def switchStart (switches : Switches) (first : Bool) (c : Char) : Parse GroupStart := do
  match ← parseSwitches c with
  | .inl on =>
    setWhole on
    if first then return .nothing else Parse.wrong
  | .inr (on, off) =>
    return .bare (off.foldl Switches.turnOff (on.foldl Switches.turnOn switches))

/-- How a group starts behind its opening parenthesis. Switches for the whole pattern may
    stand only at its start. -/
def groupStart (switches : Switches) (first : Bool) : Parse GroupStart := do
  if ← Parse.accept '?' then
    match ← Parse.next with
    | some (.plain c) =>
      if c == 'P' then namedStart switches
      else if c == ':' then return .bare switches
      else if c == '#' then
        skipGroup (← Parse.bound)
        return .nothing
      else if c == '=' then return .look false false
      else if c == '!' then return .look false true
      else if c == '<' then behindStart
      else if c == '(' then
        -- The name is ended by a parenthesis of its own, before the two branches.
        let index ← conditionGroup (← Parse.name ')')
        checkReference index
        return .condition index
      else if c == '>' then return .atomic
      else if c == '-' || (Switch.ofLetter? c).isSome then switchStart switches first c
      else Parse.wrong
    | _ => Parse.wrong
  else return .remember none

/-- One mark of a sequence, with the trees read so far in reverse. What is behind it is read by
    going on with more trees, under the same switches or others, and a group by reading it behind
    its opening parenthesis. -/
def parseMark (goOn : Switches → List Node → Parse (List Node)) (group : Bool → Parse (Option Node))
    (switches : Switches) (start : Bool) (items : List Node) : Sign → Parse (List Node)
  | .dangling => Parse.wrong
  | .escaped c => do
    let n ← escape switches c
    goOn switches (n :: items)
  | .plain c => do
    let one (test : CharTest) : Node := .one switches.folding test
    -- Blanks and comments are passed over only where the switch for it is on here.
    if switches.verbose && isLayout c then goOn switches items
    else if switches.verbose && c == '#' then
      skipLine (← Parse.bound)
      goOn switches items
    else if c == '[' then
      let n ← parseClass switches
      goOn switches (n :: items)
    else if c == '.' then goOn switches (one (if switches.dotAll then .any else .anyInLine) :: items)
    else if c == '^' then
      goOn switches (.anchor (if switches.lineAnchors then .lineStart else .textStart) :: items)
    else if c == '$' then
      goOn switches (.anchor (if switches.lineAnchors then .lineEnd else .finalEnd) :: items)
    else if c == '(' then
      match ← group (start && items.isEmpty) with
      | some n => goOn switches (n :: items)
      | none =>
        -- On the outermost level such a group may have changed the switches of the whole
        -- pattern.
        let switches ← if start then pure (← get).whole else pure switches
        goOn switches items
    else if c == '?' || c == '*' || c == '+' || c == '\x7b' then
      match ← loopStart c with
      -- A brace that starts no numbers stands for itself.
      | none => goOn switches (one (.char c.toNat) :: items)
      | some (least, most) =>
        let items ← repeatLast least most items
        goOn switches items
    else goOn switches (one (.char c.toNat) :: items)

mutual

/-- Trees to choose from, up to a closing parenthesis or the end. On the outermost level the
    switches are those of the whole pattern. -/
def parseChoice : Nat → Bool → Switches → Parse Node
  | 0, _, _ => Parse.wrong
  | fuel + 1, top, switches => do
    let first ← parseSequence fuel switches top []
    if ← Parse.accept '|' then
      let more ← parseOptions fuel top switches
      return .choice (.sequence first :: more)
    else return .sequence first

/-- The trees to choose from behind the first one. -/
def parseOptions : Nat → Bool → Switches → Parse (List Node)
  | 0, _, _ => Parse.wrong
  | fuel + 1, top, switches => do
    -- The first choice may have set switches for the whole pattern, which hold for the others
    -- too.
    let switches ← if top then pure (← get).whole else pure switches
    let items ← parseSequence fuel switches false []
    if ← Parse.accept '|' then
      return .sequence items :: (← parseOptions fuel top switches)
    else return [.sequence items]

/-- Trees one behind the other, with those read so far in reverse. The flag says that
    switches for the whole pattern may stand here. -/
def parseSequence : Nat → Switches → Bool → List Node → Parse (List Node)
  | 0, _, _, _ => Parse.wrong
  | fuel + 1, switches, start, items => do
    match ← Parse.peek with
    | none => return items.reverse
    | some t =>
      if t == .plain '|' || t == .plain ')' then return items.reverse
      else
        let _ ← Parse.next
        parseMark (fun switches items => parseSequence fuel switches start items)
          (fun first => parseGroup fuel switches first) switches start items t

/-- A group behind its opening parenthesis, or nothing where nothing is to be matched. -/
def parseGroup : Nat → Switches → Bool → Parse (Option Node)
  | 0, _, _ => Parse.wrong
  | fuel + 1, switches, first => do
    match ← groupStart switches first with
    | .nothing => return none
    | .whole n => return some n
    | .remember name =>
      let index ← openGroup name
      let body ← parseChoice fuel false switches
      Parse.expect ')'
      closeGroup index body
      return some (.group index body)
    | .bare inner =>
      let body ← parseChoice fuel false inner
      Parse.expect ')'
      return some body
    | .atomic =>
      let body ← parseChoice fuel false switches
      Parse.expect ')'
      return some (.atomic body)
    | .look behind negated =>
      let before := (← get).openedBefore
      -- Look behinds can stand in one another. The outermost one decides what may be referred
      -- to.
      if behind && before.isNone then
        modify fun s => { s with openedBefore := some s.opened }
      let body ← parseChoice fuel false switches
      -- What is in front of the closing parenthesis is all that the restriction holds for.
      if behind && before.isNone then modify fun s => { s with openedBefore := none }
      Parse.expect ')'
      if behind then return some (← lookBehind negated body)
      else return some (.look none negated body)
    | .condition index =>
      let yes ← parseSequence fuel switches false []
      let no ←
        if ← Parse.accept '|' then parseSequence fuel switches false []
        else pure []
      Parse.expect ')'
      return some (.ifGroup index (.sequence yes) (.sequence no))

end

/-- The tree of a whole pattern, with what has to be looked at in the end. -/
def parseWhole : Parse Node := do
  Parse.goTo (← get).rest
  -- Each mark takes a few steps of the recursion, and four of them are enough.
  let tree ← parseChoice (4 * (← Parse.bound) + 4) true (← get).whole
  let s ← get
  if s.sawAscii && s.sawUnicode then Parse.fail .conflict
  -- What is left over are marks behind a parenthesis that nothing has opened.
  else if !s.rest.isEmpty || s.awaited > s.opened || s.flawed then Parse.wrong
  else return tree

/-- A regular expression: its tree and the number of its groups. -/
structure Regex where
  tree : Node
  groups : Nat
deriving Repr

/-- The regular expression of a text, read under switches that are given with it. -/
def parse (cs : List Char) (whole : Switches := {}) : Except ParseError Regex := do
  let (tree, s) ← parseWhole.run { rest := signs cs, whole }
  return ⟨tree, s.opened⟩

end Pattern

end CodeAudit
