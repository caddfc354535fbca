import CodeAudit.Rule.Builtin
import CodeAudit.Source

/-!
# Rule Repositories

Where rules come from.

The built-in rules are in a package, the custom rules of a project in a folder. Both hold
rule files, which are read in the order of their names. A file that is no rule costs only
itself: it is left out with a warning. What is wrong with a scalar inside a document is a
mistake of another kind, and it ends the reading.

Rules that are not enabled are left out where all rules of a project are asked for.

## Main definitions

* `Package`: What the name of a package leads to.
* `Package.builtin`: The package of the built-in rules.
* `Package.ofFolder`: A folder as a package.
* `Package.fileNames`, `Package.rules`: The rule files of a package and their rules.
* `customRules`: The rules of a folder.
* `allRules`: The enabled rules of a package and of a folder.
-/

namespace CodeAudit

/-- A name ends in that of a rule file. -/
def hasRuleEnding (name : List Char) : Bool :=
  ".yaml".toList.isSuffixOf name || ".yml".toList.isSuffixOf name

/-- The rule of a file, or why it has none. -/
def readRule (d : Disk) (path : String) (custom : Bool) : Except Failure Rule := do
  let cs ← readDocument d path
  orFailure Failure.ofRule (Rule.load "<unicode string>" cs custom)

/-- What the name of a package leads to: files with rules, or nothing that has files. -/
inductive Package
  | unavailable (name : String) (t : PackageTrouble)
  | files (rules : List (String × Except Failure Rule))

/-- The rules of files, one after the other. A file that is no rule is left out and told. -/
def keepRules (skipped : String → Failure → Event) :
    List (String × Except Failure Rule) → Attempt (List Rule)
  | [] => return []
  | (_, .ok r) :: rest => do return r :: (← keepRules skipped rest)
  | (name, .error e) :: rest => do
    -- Some failures are about the file alone, and then the others are read all the same.
    if e.spoilsRule then
      note (skipped name e)
      keepRules skipped rest
    else throw e

namespace Package

/-- The package of the built-in rules. -/
def builtin : Package :=
  .files (Builtin.rules.map fun e => (e.1, .ok e.2))

/-- The names of the rule files of a folder, with what they hold. -/
def filesOf (d : Disk) (path : String) (names : List String) :
    List (String × Except Failure Rule) :=
  let isRuleFile (name : String) : Bool :=
    hasRuleEnding name.toList && d.isFile (Disk.join path name)
  (names.filter isRuleFile).map fun name => (name, readRule d (Disk.join path name) false)

/-- A folder as a package. -/
def ofFolder (d : Disk) (path : String) : Package :=
  match d.names path with
  | .ok names => .files (filesOf d path names)
  | .error .notFolder => .unavailable path .notAFolder
  | .error _ => .unavailable path .missing

/-- The names of the rule files of a package. -/
def fileNames : Package → Attempt (List String)
  | .files rules => return rules.map Prod.fst
  | .unavailable name t => do
    note (.packageUnavailable name t)
    return []

/-- The rules of a package. -/
def rules : Package → Attempt (List Rule)
  | .files rules => keepRules .builtinRuleSkipped rules
  | .unavailable name t => do
    note (.packageUnavailable name t)
    return []

end Package

/-- The paths of the rule files of a folder, in the order of their names. Letters may be
    capital in their endings. -/
def customRuleFiles (d : Disk) (folder : String) : List String :=
  match d.names folder with
  | .error _ => []
  | .ok names =>
    let paths := (names.filter fun n => hasRuleEnding (lowerText n.toList)).map (Disk.join folder)
    paths.filter d.isFile

/-- The rules of a folder. A folder that is not there has none. -/
def customRules (d : Disk) (folder : String) : Attempt (List Rule) :=
  keepRules .customRuleSkipped
    ((customRuleFiles d folder).map fun path => (path, readRule d path true))

/-- The enabled rules of a package, followed by those of a folder if one is given. -/
def allRules (p : Package) (d : Disk) (folder : Option String) : Attempt (List Rule) := do
  let own ← p.rules
  let custom ←
    match folder with
    | some folder => customRules d folder
    | none => pure []
  return (own ++ custom).filter Rule.enabled

end CodeAudit
