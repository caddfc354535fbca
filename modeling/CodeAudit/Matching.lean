import CodeAudit.Pattern.Match
import CodeAudit.Source

/-!
# Matching

Where a rule objects to a text.

The patterns of a rule are looked for one after the other. A pattern that has file types
applies to files with one of these extensions only, and only regular expressions are looked
for at all. Each occurrence is told with its line and column, the text it covers and the
lines around it.

Reading a regular expression takes time, so a `Matcher` keeps those it has read, and those
it could not read as well: about a text that is no regular expression there is one warning.

## Main definitions

* `Match`: An occurrence of a pattern of a rule.
* `RulePattern.appliesTo`: A pattern is looked for in files with an extension.
* `matchesOf`: The occurrences of a pattern in a text.
* `Matcher`: The regular expressions that have been read.
* `matchContent`: The occurrences of the patterns of a rule in a text.
* `Match.toFinding`: What is reported about an occurrence.
-/

namespace CodeAudit

open Pattern (Regex Subject)

/-- An occurrence of a pattern of a rule. -/
structure Match where
  rule : Rule
  path : String
  line : Nat
  column : Int
  text : String
  snippet : String
  message : String
deriving Repr

/-- What is reported about an occurrence. It has no state and no fingerprint yet. -/
def Match.toFinding (m : Match) : Finding where
  ruleId := m.rule.id
  ruleName := m.rule.name
  severity := m.rule.severity
  category := m.rule.category
  description := m.message
  path := m.path
  line := m.line
  column := m.column
  snippet := m.snippet
  matched := m.text
  compliance := m.rule.compliance
  quickFix := m.rule.quickFix
  status := none
  firstDetected := .null
  lastDetected := .null
  fingerprint := ""

/-- The form of an occurrence in a document. -/
def Match.encode (m : Match) : Value :=
  .mapping
    [(.text "rule", .text m.rule.id),
     (.text "path", .text m.path),
     (.text "line", .int m.line),
     (.text "column", .int m.column),
     (.text "text", .text m.text),
     (.text "snippet", .text m.snippet),
     (.text "message", .text m.message)]

/-- A pattern is looked for in files with an extension. -/
def RulePattern.appliesTo (p : RulePattern) (extension : String) : Bool :=
  p.fileTypes.isEmpty || p.fileTypes.any fun t => Rule.normalFileType t == extension

/-- The message about an occurrence: that of the pattern, or else that of the rule. -/
def RulePattern.messageIn (p : RulePattern) (rule : Rule) : String :=
  p.message.getD rule.description

/-- An occurrence of a pattern in a text. -/
def matchAt (rule : Rule) (p : RulePattern) (path : String) (content : List Char)
    (s : Pattern.Span) : Match :=
  let line := lineNumberAt content s.start
  { rule, path, line
    column := columnNumberAt content s.start
    -- The text keeps its line feeds, while the snippet has the lines around the first of its
    -- own.
    text := String.ofList ((content.drop s.start).take (s.stop - s.start))
    snippet := String.ofList (snippet content line snippetContext)
    message := p.messageIn rule }

/-- The occurrences of a pattern in a text, from left to right. -/
def matchesOf (rule : Rule) (p : RulePattern) (path : String) (content : Subject) (r : Regex) :
    List Match :=
  match r.findAll content with
  | [] => []
  | spans =>
    let cs := content.toList
    spans.map (matchAt rule p path cs)

/-- The regular expressions that have been read, with those texts that are none. -/
abbrev Matcher := Keyed String (Option Regex)

/-- What changes while files are searched. -/
structure Search where
  matcher : Matcher
  log : Log

/-- An operation of a search. -/
abbrev Searching := ExceptT Failure (StateM Search)

/-- An operation that tells something, as an operation of a search. -/
def Searching.ofAttempt {α : Type} (x : Attempt α) : Searching α := fun s =>
  let (result, log) := x s.log
  (result, { s with log })

/-- The regular expression of a text, read now or before. There is none if the text is no
    regular expression, which is told once. -/
def compile (ruleId text : String) : Searching (Option Regex) := do
  match Keyed.get? text (← get).matcher with
  | some known => return known
  | none =>
    match Pattern.parse text.toList with
    | .ok r =>
      modify fun s => { s with matcher := Keyed.put text (some r) s.matcher }
      return some r
    | .error .malformed =>
      Searching.ofAttempt (note (.badPattern ruleId text .malformed))
      -- A malformed text is kept as none, so it is not told of again.
      modify fun s => { s with matcher := Keyed.put text none s.matcher }
      return none
    -- A mistake of another kind is not kept, and ends the search each time.
    | .error e => throw (.pattern e)

/-- The occurrences of one pattern. Only regular expressions are looked for. -/
def matchPattern (rule : Rule) (path : String) (content : Subject) (p : RulePattern) :
    Searching (List Match) := do
  if p.appliesTo (String.ofList (Path.extension path.toList)) && p.kind == .regex then
    match ← compile rule.id p.text with
    | some r => return matchesOf rule p path content r
    | none => return []
  else return []

/-- The occurrences of several patterns, one pattern after the other. -/
def matchPatterns (rule : Rule) (path : String) (content : Subject) :
    List RulePattern → Searching (List Match)
  | [] => return []
  | p :: rest => do
    let found ← matchPattern rule path content p
    return found ++ (← matchPatterns rule path content rest)

/-- The occurrences of the patterns of a rule in the text of a file. A rule that is not
    enabled finds nothing. -/
def matchContent (rule : Rule) (path : String) (content : Subject) : Searching (List Match) :=
  if rule.enabled then matchPatterns rule path content rule.patterns else return []

/-- The occurrences of the patterns of a rule in a file, which is shown under another path
    if one is given. -/
def matchFile (d : Disk) (rule : Rule) (path shown : String) : Searching (List Match) := do
  if !rule.enabled then return []
  match ← Searching.ofAttempt (readSource d path) with
  | none => return []
  | some cs => matchContent rule (if shown.isEmpty then path else shown) cs.toArray

end CodeAudit
