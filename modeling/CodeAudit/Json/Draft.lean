import CodeAudit.Json.Write

/-!
# JSON Texts That Break Off

What is written of a value before an integer turns out to be too long.

A value is walked through from the front, and its JSON text is written in chunks on the way. A
bracket or a separator goes with the item behind it, if that is no collection; a key goes on its
own. An integer of too many digits has no chunk, and nothing is written from there on.

## Main definitions

* `Json.chunksAt`: The chunks of the text of a value.
* `Json.draft`: The text of a value, as far as it is written.
-/

namespace CodeAudit

namespace Json

/-- The text of a chunk, if an integer can be written at all. -/
abbrev Chunk := Option (List Char)

/-- The chunks of an item behind a bracket or a separator, which is a chunk of its own in front of a
    collection. -/
def behind (front : List Char) (v : Value) (chunks : List Chunk) : List Chunk :=
  match v with
  -- A collection is written in several chunks, so what stands in front of it is one of its own.
  | .list _ | .mapping _ => some front :: chunks
  | _ => chunks.map (Option.map (front ++ ·))

mutual

/-- The chunks of the JSON text of a value at a level of nesting. -/
def chunksAt (level : Nat) : Value → List Chunk
  -- An integer of too many digits has no chunk, and nothing is written from there on.
  | .int i => [if isShort i then some (toString i).toList else none]
  | .list (v :: rest) =>
    behind ('[' :: newline (level + 1)) v (chunksAt (level + 1) v) ++ itemChunks (level + 1) rest ++
      [some (newline level ++ [']'])]
  | .mapping ((k, v) :: rest) =>
    some ('\x7b' :: newline (level + 1) ++ string k.shown.toList ++ [':', ' ']) ::
      chunksAt (level + 1) v ++ entryChunks (level + 1) rest ++ [some (newline level ++ ['\x7d'])]
  | v => [some (writeAt level v)]

/-- The chunks of the items of a list behind the first one. -/
def itemChunks (level : Nat) : List Value → List Chunk
  | [] => []
  | v :: rest => behind (',' :: newline level) v (chunksAt level v) ++ itemChunks level rest

/-- The chunks of the entries of a mapping behind the first one. -/
def entryChunks (level : Nat) : List (Value × Value) → List Chunk
  | [] => []
  | (k, v) :: rest =>
    some (',' :: newline level ++ string k.shown.toList ++ [':', ' ']) :: chunksAt level v ++
      entryChunks level rest

end

/-- The texts of chunks, as far as there is one. -/
def writtenOf : List Chunk → List Char
  | some text :: rest => text ++ writtenOf rest
  | _ => []

/-- The JSON text of a value, as far as it is written: all of it, or what is in front of an integer
    of too many digits. -/
def draft (v : Value) : List Char :=
  writtenOf (chunksAt 0 v)

end Json

end CodeAudit
