import CodeAudit.CommandLine.Run
import Std.Time.DateTime.Timestamp

/-!
# The Program

The command line.

The names of the files of a project are read from standard input, one to a line, and a scan
sees these files and no others. The files are gathered on a disk, the command is run on it,
and the files that it made or changed are written back. The rest is layout: results are
printed on standard output, all else on standard error.

## Main definitions

* `Terminal.plain`: An item as lines of text.
* `Terminal.gather`, `Terminal.writeBack`: Files from outside, and back to there.
* `main`: The program.
-/

namespace CodeAudit

namespace Terminal

/-- The styles that texts are marked with. -/
def styles : List String :=
  ["bold magenta", "bold cyan", "bold red", "bold", "dim", "red", "yellow", "cyan", "green",
   "white"]

/-- A text without the marks of styles. -/
def withoutMarks (s : String) : String :=
  styles.foldl (fun s style => (s.replace ("[" ++ style ++ "]") "").replace
    ("[/" ++ style ++ "]") "") s

/-- The cells of a row on one line. -/
def row (cells : List String) : String :=
  String.intercalate "  " (cells.map withoutMarks)

/-- An item as lines of text. -/
def plain : Item → List String
  | .line s => [withoutMarks s]
  | .panel s => [withoutMarks s]
  | .table t => t.title.toList ++ row t.columns :: t.rows.map row

/-- What is printed when reading the command line ends early. -/
def stopText : Arguments.Stop → String
  | .help => "usage: guardian [-h] [--version] [-v] scan|report|rules [path] [options]"
  | .version => "guardian " ++ Show.version
  | .wrong => "guardian: error: the command line is not understood; see guardian --help"

/-- The exit code when reading the command line ends early. -/
def stopCode : Arguments.Stop → UInt32
  | .wrong => 2
  | _ => 0

mutual

/-- The files below an entry that has a path itself. -/
def filesBelow (path : String) : Entry → List (String × List UInt8)
  | .file content => [(path, content)]
  | .folder entries => filesAmong path entries
  | .link _ => []

/-- The files below entries of a folder. -/
def filesAmong (path : String) : List (String × Entry) → List (String × List UInt8)
  | [] => []
  | e :: rest => filesNamed path e ++ filesAmong path rest

/-- The files below an entry with a name. -/
def filesNamed (path : String) : String × Entry → List (String × List UInt8)
  | (name, e) => filesBelow (path ++ "/" ++ name) e

end

/-- The files that are on a disk and are not the same on another. -/
def changedFiles (before after : Disk) : List (String × List UInt8) :=
  (filesBelow "" after.root).filter fun f =>
    match before.fileContent f.1 with
    | .ok content => content != f.2
    | .error _ => true

/-- A disk with a file and the folders it is in, where that is possible. -/
def withFile (d : Disk) (path : String) (content : List UInt8) : Disk :=
  let folder := String.ofList (Path.parent path.toList)
  match d.makeFolders (path.length + 1) folder with
  | .error _ => d
  | .ok made =>
    match made.writeFile path content with
    | .ok written => written
    | .error _ => d

/-- A disk with the files that are named, as far as they can be read. -/
def gather (d : Disk) (names : List String) : IO Disk := do
  let mut d := d
  for name in names do
    try
      let bytes ← IO.FS.readBinFile name
      d := withFile d (d.absolute name) bytes.toList
    catch _ => pure ()
  return d

/-- Writes files to where they belong. -/
def writeBack (files : List (String × List UInt8)) : IO Unit := do
  for (path, content) in files do
    IO.FS.createDirAll (String.ofList (Path.parent path.toList))
    IO.FS.writeBinFile path ⟨content.toArray⟩

/-- The disk with the folder in which the program is called. -/
def startDisk (folder : String) : Disk :=
  let d : Disk := ⟨.folder [], []⟩
  match d.makeFolders (folder.length + 1) folder with
  | .error _ => d
  | .ok made =>
    match made.locate true folder with
    | .ok place => { made with cwd := place }
    | .error _ => made

/-- The events that are told to the user. -/
def toldEvents (least : Level) (log : Log) : List String :=
  let shown := if least == .debug then log else log.filter fun e => e.level == .warning
  shown.map fun e => e.level.label ++ ": " ++ e.text Wording.full

/-- Runs what the user asks for. -/
def perform (i : Invocation) : IO UInt32 := do
  let started ← IO.monoMsNow
  let names := (← (← IO.getStdin).lines).toList
  let d ← gather (startDisk ((← IO.getEnv "PWD").getD "/")) names
  let now := (← Std.Time.Timestamp.now).toMillisecondsSinceUnixEpoch
  let clock : Clock := ⟨now.val, (← IO.monoMsNow) - started⟩
  let (result, w) := (i.run .builtin none clock).run (.ofDisk d (← IO.rand 1000 9999))
  for s in toldEvents i.logLevel w.scan.log do IO.eprintln s
  writeBack (changedFiles d w.disk)
  match result with
  | .error e =>
    IO.eprintln (e.text Wording.full)
    return 1
  | .ok o =>
    for s in o.err.flatMap plain do IO.eprintln s
    for s in o.out.flatMap plain do IO.println s
    return o.code.toUInt32

end Terminal

end CodeAudit

/-- The program. -/
def main (args : List String) : IO UInt32 := do
  match CodeAudit.Invocation.read args with
  | .error stop =>
    if stop == .wrong then IO.eprintln (CodeAudit.Terminal.stopText stop)
    else IO.println (CodeAudit.Terminal.stopText stop)
    return CodeAudit.Terminal.stopCode stop
  | .ok i => CodeAudit.Terminal.perform i
