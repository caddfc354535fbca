import CodeAudit.Failure
import CodeAudit.Glob

/-!
# Selection

The files of a project that are searched.

The folder of a project is walked through. The files of a folder come in the order of their
names, then the folders in it in the order of theirs. A link to a file counts as a file, a
link to a folder is left alone, so that the walk cannot go in circles.

A file is taken if its path within the project matches some glob of one list and no glob of
another.

## Main definitions

* `accepts`: A path is taken.
* `Entry.files`: The files below a folder.
* `selectFiles`: The files of a project that are taken.
* `wayTo`: The way from a root to a path that is given.
-/

namespace CodeAudit

/-- A path matches no glob of the one list and some glob of the other. -/
def accepts (includes excludes : List String) (path : String) : Bool :=
  let fits (glob : String) : Bool := matchesGlob path.toList glob.toList
  !excludes.any fits && includes.any fits

/-- The first of two entries under names comes first. -/
def nameOrder {α : Type} (a b : String × α) : Bool :=
  decide (a.1 ≤ b.1)

/-- An entry of a folder stands for something that is not a folder. -/
def standsForFile (d : Disk) (path : String) (e : String × Entry) : Bool :=
  match e.2 with
  | .folder _ => false
  -- A link counts for what it leads to, except that a folder is never gone into by it.
  | _ => d.isFile (Disk.join path e.1)

namespace Entry

mutual

/-- The paths of the files below a folder that has a path itself. -/
def files (d : Disk) (path : String) : Entry → List String
  | .folder entries =>
    ((sortBy nameOrder entries).filter (standsForFile d path)).map
        (fun e => Disk.join path e.1) ++
      -- The folders come behind the files of this one, ordered by their names and not by their
      -- paths.
      (sortBy nameOrder (filesOfFolders d path entries)).flatMap Prod.snd
  | _ => []

/-- The paths of the files below the folders among entries, with the names of the
    folders. -/
def filesOfFolders (d : Disk) (path : String) :
    List (String × Entry) → List (String × List String)
  | [] => []
  | e :: rest => filesOfNamed d path e :: filesOfFolders d path rest

/-- The paths of the files below an entry with a name. -/
def filesOfNamed (d : Disk) (path : String) : String × Entry → String × List String
  | (name, e) => (name, files d (Disk.join path name) e)

end

end Entry

/-- The paths of the files in a project, in the order of the walk. -/
def projectFiles (d : Disk) (root : String) : List String :=
  match d.lookup root with
  | .ok e => e.files d root
  | .error _ => []

/-- The paths of the files of a project that are taken, in the order of the walk. -/
def selectFiles (d : Disk) (root : String) (includes excludes : List String) : List String :=
  (projectFiles d root).filter fun path => accepts includes excludes (d.relativeTo root path)

/-- The way from a root to a path. There has to be a path. -/
def wayTo (d : Disk) (root path : String) : Except Failure String :=
  if path.isEmpty then .error .noPath else .ok (d.relativeTo root path)

end CodeAudit
