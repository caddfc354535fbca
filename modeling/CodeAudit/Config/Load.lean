import CodeAudit.Source
import CodeAudit.Text.Stream

/-!
# Configuration Files

The configuration of a project.

A project can have a configuration file, which is laid over the standard configuration. A
project without one is scanned with the standard configuration as it is.

The file is read as a stream, only as far as its document is understood. So in a file that is not
text a mistake of the document is met first if it stands far enough in front of the bytes that are
no text.

## Main definitions

* `Config.path`: The path of the configuration file of a project.
* `Config.apply`: A configuration with a document laid over it, unknown keys told.
* `Config.documentOf`: The document of the bytes of a file.
* `Config.load`: The configuration of a file.
-/

namespace CodeAudit

namespace Config

/-- The path of the configuration file of a project. -/
def path (root : String) : String :=
  Disk.join root ".securecode/config.yaml"

/-- A configuration with a document laid over it. Keys that mean nothing are told. -/
def apply (c : Config) (data : Value) : Attempt Config := do
  let (changed, outcome) := c.overlay data
  -- A mistake ends the reading before the unknown keys are told.
  let unknown ← Attempt.ofExcept (orFailure Failure.ofOverlay outcome)
  if !unknown.isEmpty then note (.unknownConfigKeys unknown)
  return changed

/-- The configuration of a document in a file. An empty document says nothing. -/
def ofDocument (path : String) (v : Value) : Attempt Config :=
  match v.opened with
  | .null => return standard
  | .mapping entries => apply standard (.mapping entries)
  | v => throw (.config (.notAMapping v.kindName path))

/-- The document of the bytes of a file, which may be cut off by bytes that are no text. -/
def documentOf (path : String) (bytes : List UInt8) : Yaml.Scan Unit Value :=
  match Utf8.decode? bytes with
  | some cs =>
    -- The text ends here, and nothing cuts it off.
    (Yaml.loadParts path (normalizeNewlines cs) none).mapError (Yaml.LoadError.map Empty.elim)
  | none => Yaml.loadParts path (charsBeforeFault Yaml.partLength bytes) (some ())

/-- The document of the bytes of a file, or the failure to read one. -/
def valueOf (path : String) (bytes : List UInt8) : Except Failure Value :=
  match documentOf path bytes with
  | .ok v => .ok v
  | .error (.malformed t) => .error (.config (.malformed path t))
  | .error (.defect e) => .error (.defect e)
  | .error (.cutOff ()) => .error .notText

/-- The configuration of a file, or the standard one if there is no file. -/
def load (d : Disk) (path : String) : Attempt Config :=
  if d.isFile path then
    match d.fileContent path with
    | .error e => throw (.config (.unreadable path e))
    | .ok bytes => do
      let v ← Attempt.ofExcept (valueOf path bytes)
      ofDocument path v
  else do
    note (.noConfigFile path)
    return standard

end Config

end CodeAudit
