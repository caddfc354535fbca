import CodeAudit.Log
import CodeAudit.Text.Lines
import CodeAudit.Text.Utf8

/-!
# Source Files

Reading the files that are searched.

A source file is read leniently: what is not UTF-8 in it becomes replacement characters.
Only a file that is too large, or that has a zero byte near its beginning and so is no text
at all, is left out, and so is one that the system does not give.

## Main definitions

* `Source.ofBytes`: The text of the bytes of a file.
* `Source.read`: The text of a file.
* `readSource`: The text of a file, with a note if there is none.
-/

namespace CodeAudit

namespace Source

/-- The largest number of bytes of a file that is read. -/
def sizeLimit : Nat := 10485760

/-- The number of bytes at the beginning of a file that are looked at for a zero. -/
def sniffLength : Nat := 8192

/-- The text of the bytes of a file. -/
def ofBytes (bytes : List UInt8) : Except SourceTrouble (List Char) :=
  if bytes.length > sizeLimit then .error (.tooLarge bytes.length)
  -- A zero further on does not count.
  else if (bytes.take sniffLength).contains 0 then .error .binary
  else .ok (Utf8.decodeTolerant bytes)

/-- The text of a file. -/
def read (d : Disk) (path : String) : Except SourceTrouble (List Char) :=
  match d.fileContent path with
  | .ok bytes => ofBytes bytes
  | .error e => .error (.unreadable e)

end Source

/-- The text of a file, or nothing and a note about why there is none. -/
def readSource (d : Disk) (path : String) : Attempt (Option (List Char)) :=
  match Source.read d path with
  | .ok cs => return some cs
  | .error t => do
    note (.sourceSkipped path t)
    return none

/-- The text of a file that the program keeps for itself. It has to be UTF-8, and its line
    ends become line feeds. -/
def readDocument (d : Disk) (path : String) : Except Failure (List Char) :=
  match d.fileContent path with
  | .error e => .error (.file path e)
  | .ok bytes =>
    match Utf8.decode? bytes with
    | some cs => .ok (normalizeNewlines cs)
    | none => .error .notText

end CodeAudit
