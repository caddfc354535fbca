import CodeAudit.Text.Case

/-!
# Paths

Paths of files, as texts.

A path is a list of names between slashes. It is absolute if it starts with a slash, and
otherwise leads on from the current directory. The functions here look at the text only:
two dots take the last name away whatever it stands for.

A path that starts with exactly two slashes is kept apart from one that starts with one,
since the meaning of the former is left to the system.

## Main definitions

* `Path.names`: The names of a path.
* `Path.join`: A path leading on from another.
* `Path.normalize`: A path without detours.
* `Path.absolute`: A path from the root of the file system.
* `Path.relativeTo`: The way from one path to another.
* `Path.extension`: The part of a file name behind its last point.
-/

namespace CodeAudit

namespace Path

/-- The pieces of a path between slashes. The piece being read is given in reverse. -/
def piecesFrom : List Char → List Char → List (List Char)
  | cur, [] => [cur.reverse]
  | cur, c :: rest =>
    if c == '/' then cur.reverse :: piecesFrom [] rest else piecesFrom (c :: cur) rest

/-- The pieces of a path between slashes, empty ones included. -/
def pieces (p : List Char) : List (List Char) :=
  piecesFrom [] p

/-- The names of a path: the pieces that are not empty. -/
def names (p : List Char) : List (List Char) :=
  (pieces p).filter fun n => !n.isEmpty

/-- A path that starts from the root. -/
def isAbsolute (p : List Char) : Bool :=
  p.head? == some '/'

/-- A path leading on from another. An absolute path leads on from nothing. -/
def join (a b : List Char) : List Char :=
  if isAbsolute b then b
  else if a.isEmpty || a.getLast? == some '/' then a ++ b
  else a ++ '/' :: b

/-- Names joined by slashes. -/
def joinNames (ns : List (List Char)) : List Char :=
  List.intercalate ['/'] ns

/-- The name that stays where one is. -/
def here : List Char := ['.']

/-- The name that leads up. -/
def up : List Char := ['.', '.']

/-- Removes detours from names, given the names kept so far in reverse. Above the root
    there is nothing; above where a relative path starts, the way up is kept. -/
def withoutDetours (rooted : Bool) : List (List Char) → List (List Char) → List (List Char)
  | kept, [] => kept.reverse
  | kept, n :: rest =>
    if n.isEmpty || n == here then withoutDetours rooted kept rest
    else if n == up then
      match kept with
      -- Above the root there is the root again.
      | [] => withoutDetours rooted (if rooted then [] else [up]) rest
      | k :: more =>
        -- A way up that was kept cannot be undone by what comes behind it.
        if k == up then withoutDetours rooted (up :: k :: more) rest
        else withoutDetours rooted more rest
    else withoutDetours rooted (n :: kept) rest

/-- The slashes a path starts with: none, one, or exactly two. -/
def leadingSlashes (p : List Char) : List Char :=
  match p with
  | '/' :: '/' :: '/' :: _ => ['/']
  | '/' :: '/' :: _ => ['/', '/']
  | '/' :: _ => ['/']
  | _ => []

/-- A path without detours. -/
def normalize (p : List Char) : List Char :=
  let slashes := leadingSlashes p
  let result := slashes ++ joinNames (withoutDetours (!slashes.isEmpty) [] (pieces p))
  if result.isEmpty then here else result

/-- A path from the root, without detours. -/
def absolute (cwd p : List Char) : List Char :=
  normalize (if isAbsolute p then p else join cwd p)

/-- What remains of two lists behind their common beginning. -/
def dropCommon : List (List Char) → List (List Char) → List (List Char) × List (List Char)
  | a :: as, b :: bs => if a == b then dropCommon as bs else (a :: as, b :: bs)
  | as, bs => (as, bs)

/-- The way from one path to another: up as often as needed, and then down. -/
def relativeTo (cwd root p : List Char) : List Char :=
  -- Both paths are made absolute first, so what they have in common is in front.
  let (above, below) := dropCommon (names (absolute cwd root)) (names (absolute cwd p))
  let way := List.replicate above.length up ++ below
  if way.isEmpty then here else joinNames way

/-- The last piece of a path. -/
def baseName (p : List Char) : List Char :=
  (p.reverse.takeWhile (· != '/')).reverse

/-- The part of a path before its last piece, without the slashes at its end unless there is
    nothing else. -/
def parent (p : List Char) : List Char :=
  let head := (p.reverse.dropWhile (· != '/')).reverse
  let trimmed := (head.reverse.dropWhile (· == '/')).reverse
  if trimmed.isEmpty then head else trimmed

/-- The part of a file name behind its last point. Points at the start of the name do not
    count. -/
def nameExtension (name : List Char) : List Char :=
  -- A point at the start makes a file hidden, and starts no extension.
  let body := name.dropWhile (· == '.')
  if body.contains '.' then (body.reverse.takeWhile (· != '.')).reverse else []

/-- The part of a file name behind its last point, in small letters. -/
def extension (p : List Char) : List Char :=
  lowerText (nameExtension (baseName p))

end Path

end CodeAudit
