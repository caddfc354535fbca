import CodeAudit.Path
import CodeAudit.Sorted

/-!
# Disks

Files, folders and links.

A disk is a tree of folders and a current folder. A name in a folder stands for a file, a
folder, or a link with the path of something else. Paths are followed name by name: two
dots lead to the folder above, a link in the middle of a path leads wherever its own path
leads, and a link at its end does so unless the operation is about the link itself.

All operations are functions. One that changes something gives the disk as it is
afterwards.

A disk has no limits. Names and paths may be of any length and folders nested to any depth, there
is room for every file, and everything may be read and written. What a mounted file system or the
system as a whole refuses for such a reason is not described: a file name that is too long for it, a
path that is, a tree too deep to be walked, a disk that is full, and a lack of rights.

## Main definitions

* `Entry`: A file, a folder or a link.
* `Disk`: A tree with a current folder.
* `FileError`: Why an operation fails.
* `Disk.locate`: The place a path leads to.
* `Disk.isFile`, `Disk.isFolder`, `Disk.names`: What stands at a path.
* `Disk.fileContent`, `Disk.writeFile`, `Disk.moveOver`, `Disk.buildFolders`,
  `Disk.makeFolders`, `Disk.makeLink`, `Disk.remove`: Operations on files, folders and links.
-/

namespace CodeAudit

/-- A file, a folder or a link. -/
inductive Entry
  | file (content : List UInt8)
  | folder (entries : List (String × Entry))
  | link (target : String)
deriving Inhabited

/-- The names from the root of a disk to a place, the last name first. -/
abbrev Place := List String

/-- A tree of folders with a current folder, which is given by its names from the root. -/
structure Disk where
  root : Entry
  cwd : Place
deriving Inhabited

/-- Why an operation on files fails. -/
inductive FileError
  /-- There is nothing at the path. -/
  | notFound
  /-- There is a folder where a file is needed. -/
  | isFolder
  /-- There is something where nothing may be. -/
  | exists
  /-- There is a file where a folder is needed. -/
  | notFolder
  /-- Links lead in a circle. -/
  | tooManyLinks
deriving DecidableEq, Repr

/-- The message of a failed operation. -/
def FileError.text : FileError → String
  | .notFound => "No such file or directory"
  | .isFolder => "Is a directory"
  | .exists => "File exists"
  | .notFolder => "Not a directory"
  | .tooManyLinks => "Too many levels of symbolic links"

namespace Entry

/-- The entry of a name in a folder. -/
def child? (name : String) : Entry → Option Entry
  | .folder entries => entries.lookup name
  | _ => none

/-- The entry below an entry along names. -/
def descend : List String → Entry → Option Entry
  | [], e => some e
  | n :: rest, e =>
    match e.child? n with
    | some c => descend rest c
    | none => none

/-- Sets or removes what stands under a name. -/
def setName {α : Type} (name : String) (e : Option α) : List (String × α) → List (String × α)
  | [] => e.toList.map fun x => (name, x)
  | (n, x) :: rest =>
    if n == name then (e.toList.map fun y => (name, y)) ++ rest
    else (n, x) :: setName name e rest

/-- Sets or removes the entry below an entry along names, in folders that are there. -/
def update (e : Option Entry) : List String → Entry → Entry
  | [], old => e.getD old
  | [n], .folder entries => .folder (setName n e entries)
  | n :: rest, .folder entries =>
    match entries.lookup n with
    -- Only the last name may be missing. Folders on the way are never made.
    | some c => .folder (setName n (some (update e rest c)) entries)
    | none => .folder entries
  | _, old => old

end Entry

namespace Disk

/-- The entry at a place. -/
def at? (d : Disk) (place : Place) : Option Entry :=
  d.root.descend place.reverse

/-- The number of links that are followed on one way. -/
def linkLimit : Nat := 40

/-- The steps of a path: its names, with the ways up. A slash at the end asks for a folder,
    which a step that stays in place does. -/
def stepsOf (path : String) : List String :=
  let pieces := Path.pieces path.toList
  -- A slash or a point at the end says that a folder is meant.
  let names := (pieces.filter fun n => !n.isEmpty && n != Path.here).map String.ofList
  let last := pieces.getLast?
  if (last == some [] || last == some Path.here) && !path.isEmpty then names ++ ["."] else names

/-- The place a path starts from. -/
def startOf (path : String) (here : Place) : Place :=
  if Path.isAbsolute path.toList then [] else here

/-- Follows steps from a place. A link is followed by taking its detour, with the place it is
    in and the steps behind it; at the end that is done only if it is asked for. The last step
    may lead to nothing, in a folder that is there. -/
def walkSteps (d : Disk) (followLast : Bool)
    (detour : String → Place → List String → Except FileError Place) :
    Place → List String → Except FileError Place
  | place, [] => .ok place
  | place, n :: rest =>
    match d.at? place with
    | some (.folder entries) =>
      if n == "." then walkSteps d followLast detour place rest
      -- Above the root there is the root again.
      else if n == ".." then walkSteps d followLast detour place.tail rest
      else
        match entries.lookup n with
        -- A name without an entry can be the last one only, since nothing is below it.
        | none => if rest.isEmpty then .ok (n :: place) else .error .notFound
        | some (.link target) =>
          if rest.isEmpty && !followLast then .ok (n :: place) else detour target place rest
        | some _ => walkSteps d followLast detour (n :: place) rest
    | some _ => .error .notFolder
    | none => .error .notFound

/-- Follows steps from a place, and no more than a number of links on the way. -/
def walk (d : Disk) (followLast : Bool) : Nat → Place → List String → Except FileError Place
  -- Each detour takes one link off, so a circle of links comes to an end.
  | 0 => d.walkSteps followLast fun _ _ _ => .error .tooManyLinks
  | links + 1 => d.walkSteps followLast fun target place rest =>
    if target.isEmpty then .error .notFound
    else walk d followLast links (startOf target place) (stepsOf target ++ rest)

/-- The place a path leads to. There need not be anything at that place, but the folder it
    is in is there. -/
def locate (d : Disk) (followLast : Bool) (path : String) : Except FileError Place :=
  if path.isEmpty then .error .notFound
  else d.walk followLast linkLimit (startOf path d.cwd) (stepsOf path)

/-- What a path leads to. -/
def lookup (d : Disk) (path : String) : Except FileError Entry := do
  let place ← d.locate true path
  match d.at? place with
  | some e => return e
  | none => throw .notFound

/-- There is something at a path. -/
def exists? (d : Disk) (path : String) : Bool :=
  match d.lookup path with
  | .ok _ => true
  -- What is looked up is the end of all links, so it is never one itself.
  | .error _ => false

/-- There is a file at a path. -/
def isFile (d : Disk) (path : String) : Bool :=
  match d.lookup path with
  | .ok (.file _) => true
  | _ => false

/-- There is a folder at a path. -/
def isFolder (d : Disk) (path : String) : Bool :=
  match d.lookup path with
  | .ok (.folder _) => true
  | _ => false

/-- The names in a folder, in order. -/
def names (d : Disk) (path : String) : Except FileError (List String) :=
  match d.lookup path with
  | .ok (.folder entries) => .ok (sortTexts (entries.map Prod.fst))
  | .ok _ => .error .notFolder
  | .error e => .error e

/-- The bytes of a file. -/
def fileContent (d : Disk) (path : String) : Except FileError (List UInt8) :=
  match d.lookup path with
  | .ok (.file content) => .ok content
  | .ok _ => .error .isFolder
  | .error e => .error e

/-- The disk with an entry set or removed at a place. -/
def setAt (d : Disk) (place : Place) (e : Option Entry) : Disk :=
  { d with root := d.root.update e place.reverse }

/-- The disk with a file written. -/
def writeFile (d : Disk) (path : String) (content : List UInt8) : Except FileError Disk := do
  -- A link at the end is followed, and the file it leads to is written.
  let place ← d.locate true path
  match d.at? place with
  | some (.folder _) => throw .isFolder
  | _ => return d.setAt place (some (.file content))

/-- The disk with a file moved to another path, over whatever file is there. -/
def moveOver (d : Disk) (source target : String) : Except FileError Disk := do
  -- A link is moved itself, and one that is in the place of the target is replaced.
  let source ← d.locate false source
  let target ← d.locate false target
  match d.at? source, d.at? target with
  | none, _ => throw .notFound
  | some _, some (.folder _) => throw .isFolder
  | some e, _ => return (d.setAt source none).setAt target (some e)

/-- The disk with a new folder. -/
def makeFolder (d : Disk) (path : String) : Except FileError Disk := do
  let place ← d.locate false path
  match d.at? place with
  | some _ => throw .exists
  | none => return d.setAt place (some (.folder []))

/-- Makes a folder and the folders above it, where they are missing. Gives the disk as it is
    afterwards and the mistake, if there is one; folders made before a mistake stay. It is no
    mistake if the folder is there. -/
def buildFolders : Nat → Disk → String → Disk × Option FileError
  | 0, d, _ => (d, none)
  | fuel + 1, d, path =>
    let above := String.ofList (Path.parent path.toList)
    -- The folder above can be the path itself, at the root, and then there is nothing to make.
    if !above.isEmpty && above != path && !d.exists? above then
      match buildFolders fuel d above with
      | (d, none) => finish d path
      -- Someone has made the folder above in the meantime.
      | (d, some .exists) => finish d path
      | (d, some e) => (d, some e)
    else finish d path
where
  /-- Makes the folder itself. -/
  finish (d : Disk) (path : String) : Disk × Option FileError :=
    match d.makeFolder path with
    | .ok d => (d, none)
    | .error e => if d.isFolder path then (d, none) else (d, some e)

/-- The disk with a folder and the folders above it, if they can be made. -/
def makeFolders (fuel : Nat) (d : Disk) (path : String) : Except FileError Disk :=
  match buildFolders fuel d path with
  | (d, none) => .ok d
  | (_, some e) => .error e

/-- The disk with a link, in the place of whatever is there. -/
def makeLink (d : Disk) (path target : String) : Except FileError Disk := do
  return d.setAt (← d.locate false path) (some (.link target))

/-- The disk without what stands at a path. A link is removed, and not what it leads to. -/
def remove (d : Disk) (path : String) : Except FileError Disk := do
  let place ← d.locate false path
  match d.at? place with
  | some _ => return d.setAt place none
  | none => throw .notFound

/-- The current folder as a path. -/
def cwdPath (d : Disk) : List Char :=
  '/' :: Path.joinNames (d.cwd.reverse.map String.toList)

/-- A path from the root, without detours. -/
def absolute (d : Disk) (path : String) : String :=
  String.ofList (Path.absolute d.cwdPath path.toList)

/-- The way from a root to a path. -/
def relativeTo (d : Disk) (root path : String) : String :=
  String.ofList (Path.relativeTo d.cwdPath root.toList path.toList)

/-- A path leading on from another. -/
def join (a b : String) : String :=
  String.ofList (Path.join a.toList b.toList)

end Disk

end CodeAudit
