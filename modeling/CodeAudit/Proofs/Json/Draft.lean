import CodeAudit.Json.Draft

/-!
# Texts Without a Break

That a value is written to its end if all of its integers can be written.

Every chunk of such a value has a text, and put behind one another they are the JSON text of the
value: what stands in front of an item goes with the item, or is a chunk of its own. The proof goes
down into the value together with the lists of items and entries behind a first one.

## Main definitions

* `Json.Writes`: Chunks that are all written, and their text.

## Theorems

* `Json.writes_chunksAt`: The chunks of a value.
* `Json.draft_eq`: A value is written to its end.
-/

namespace CodeAudit

namespace Json

/-- Chunks that are all written, and their text. -/
def Writes (chunks : List Chunk) (text : List Char) : Prop :=
  ∃ texts : List (List Char), chunks = texts.map some ∧ texts.flatten = text

namespace Writes

variable {chunks chunks' : List Chunk} {text text' : List Char}

theorem nil : Writes [] [] :=
  ⟨[], rfl, rfl⟩

theorem one (text : List Char) : Writes [some text] text :=
  ⟨[text], rfl, List.flatten_singleton⟩

theorem append (h : Writes chunks text) (h' : Writes chunks' text') :
    Writes (chunks ++ chunks') (text ++ text') := by
  rcases h with ⟨texts, rfl, rfl⟩
  rcases h' with ⟨texts', rfl, rfl⟩
  exact ⟨texts ++ texts', List.map_append.symm, List.flatten_append⟩

theorem cons (front : List Char) (h : Writes chunks text) :
    Writes (some front :: chunks) (front ++ text) :=
  (one front).append h

end Writes

theorem writtenOf_eq {chunks : List Chunk} {text : List Char} (h : Writes chunks text) :
    writtenOf chunks = text := by
  rcases h with ⟨texts, rfl, rfl⟩
  induction texts with
  | nil => rfl
  | cons first rest ih => rw [List.map_cons, writtenOf, ih, List.flatten_cons]

/-- What stands in front of a value goes with its first chunk, or is a chunk of its own. -/
theorem writes_behind (front : List Char) (v : Value) (level : Nat)
    (h : Writes (chunksAt level v) (writeAt level v)) :
    Writes (behind front v (chunksAt level v)) (front ++ writeAt level v) := by
  cases v with
  | list items => exact h.cons front
  | mapping entries => exact h.cons front
  | int i =>
      -- The chunk of an integer that is written is its text.
      have hchunk : chunksAt level (.int i) = [some (writeAt level (.int i))] := by
        rcases h with ⟨texts, htexts, hflat⟩
        rw [htexts, ← hflat]
        rw [chunksAt] at htexts
        cases texts with
        | nil => cases htexts
        | cons text texts =>
            cases texts with
            | nil => rw [List.flatten_singleton, List.map_singleton]
            | cons _ _ => cases (List.cons.inj htexts).2
      rw [hchunk]
      exact .one _
  | _ => exact .one _

mutual

/-- The chunks of a value without an integer that is too long. -/
theorem writes_chunksAt (level : Nat) (v : Value) (h : hasShortIntegers v = true) :
    Writes (chunksAt level v) (writeAt level v) := by
  match v with
  | .int i =>
      rw [hasShortIntegers] at h
      rw [chunksAt, if_pos h, writeAt]
      exact .one _
  | .list [] => exact .one _
  | .list (v :: rest) =>
      -- The front goes to the first value, so that the bracket is no chunk of its own.
      rw [hasShortIntegers, itemsAreShort, Bool.and_eq_true] at h
      have hfirst := writes_behind ('[' :: newline (level + 1)) v (level + 1)
        (writes_chunksAt (level + 1) v h.1)
      have hall := (hfirst.append (writes_itemChunks (level + 1) rest h.2)).append
        (.one (newline level ++ [']']))
      rw [chunksAt, writeAt]
      simpa only [List.cons_append, List.append_assoc] using hall
  | .mapping [] => exact .one _
  | .mapping ((k, v) :: rest) =>
      rw [hasShortIntegers, entriesAreShort, Bool.and_eq_true] at h
      have hall := (((writes_chunksAt (level + 1) v h.1).append
        (writes_entryChunks (level + 1) rest h.2)).append (.one (newline level ++ ['\x7d']))).cons
          ('\x7b' :: newline (level + 1) ++ string k.shown.toList ++ [':', ' '])
      rw [chunksAt, writeAt]
      simpa only [List.cons_append, List.append_assoc, List.nil_append] using hall
  | .null | .bool _ | .float _ | .text _ | .bytes _ | .date _ | .moment _ | .pair _ _ | .set _
  | .knot _ _ | .again _ => exact .one _

/-- The chunks of items. -/
theorem writes_itemChunks (level : Nat) (items : List Value) (h : itemsAreShort items = true) :
    Writes (itemChunks level items) (writeItems level items) := by
  match items with
  | [] => exact .nil
  | v :: rest =>
      rw [itemsAreShort, Bool.and_eq_true] at h
      have hfirst := writes_behind (',' :: newline level) v level (writes_chunksAt level v h.1)
      have hall := hfirst.append (writes_itemChunks level rest h.2)
      rw [itemChunks, writeItems]
      simpa only [List.cons_append, List.append_assoc] using hall

/-- The chunks of entries. -/
theorem writes_entryChunks (level : Nat) (entries : List (Value × Value))
    (h : entriesAreShort entries = true) :
    Writes (entryChunks level entries) (writeEntries level entries) := by
  match entries with
  | [] => exact .nil
  | (k, v) :: rest =>
      rw [entriesAreShort, Bool.and_eq_true] at h
      have hall := ((writes_chunksAt level v h.1).append
        (writes_entryChunks level rest h.2)).cons
          (',' :: newline level ++ string k.shown.toList ++ [':', ' '])
      rw [entryChunks, writeEntries]
      simpa only [List.cons_append, List.append_assoc, List.nil_append] using hall

end

/-- A value is written to its end if all of its integers can be written. -/
theorem draft_eq (v : Value) (h : hasShortIntegers v = true) : draft v = write v :=
  writtenOf_eq (writes_chunksAt 0 v h)

end Json

end CodeAudit
