import CodeAudit.Text.Stream
import Mathlib.Data.List.Basic

/-!
# Reading Text in Chunks

How many characters come out of a file that is not text.

A character takes one byte at least. While a file is read in chunks its bytes are in several places:
they are characters already, they are held because a character goes on in the next chunk, or they
are left in the file. `ChunkReader.size` counts all of these together, and a carriage return that is
held. No chunk makes it grow, so in the end there are no more characters than bytes.

## Main definitions

* `ChunkReader.size`: The number of characters that there can still be at most.

## Theorems

* `length_normalizeChunk`, `Utf8.length_decodeChunk`: The characters of a chunk and what is held.
* `ChunkReader.size_step`, `ChunkReader.length_run`: No chunk makes the size grow.
* `length_charsBeforeFault`: There are no more characters than bytes.
-/

namespace CodeAudit

theorem length_normalizeNewlines (cs : List Char) : (normalizeNewlines cs).length ≤ cs.length := by
  induction cs using normalizeNewlines.induct with
  | case1 => exact Nat.le_refl 0
  | case2 rest ih =>
      rw [normalizeNewlines, List.length_cons, List.length_cons, List.length_cons]
      omega
  | case3 rest _ ih =>
      rw [normalizeNewlines, List.length_cons, List.length_cons]
      · omega
      · assumption
  | case4 c rest _ _ ih =>
      rw [normalizeNewlines, List.length_cons, List.length_cons]
      · omega
      · assumption
      · assumption

/-- The carriage returns that are held in front of a chunk and at its end, counted with its
    characters. -/
theorem length_normalizeChunk (returned : Bool) (cs : List Char) :
    (normalizeChunk returned cs).1.length + (if (normalizeChunk returned cs).2 then 1 else 0) ≤
      cs.length + (if returned then 1 else 0) := by
  cases cs with
  | nil => exact Nat.le_refl _
  | cons c rest =>
      rw [normalizeChunk, List.isEmpty_cons, if_neg Bool.false_ne_true]
      dsimp only
      generalize hshown : (if returned then '\r' :: c :: rest else c :: rest) = shown
      have hlength : shown.length = (c :: rest).length + (if returned then 1 else 0) := by
        rw [← hshown]
        split
        all_goals rfl
      have hpos : 0 < (c :: rest).length := Nat.zero_lt_succ _
      split
      · have := length_normalizeNewlines shown.dropLast
        rw [List.length_dropLast] at this
        dsimp only
        rw [if_pos rfl]
        omega
      · have := length_normalizeNewlines shown
        dsimp only
        rw [if_neg Bool.false_ne_true]
        omega

namespace Utf8

/-- The characters of a chunk and the bytes that are held at its end are no more than the bytes of the
    chunk, what was found and held before counted with them. -/
theorem length_decodeChunk (bytes : List UInt8) :
    ∀ (found : List Char) (held : List UInt8) (p : Option Pending) (cs : List Char)
      (kept : List UInt8), decodeChunk found held p bytes = some (cs, kept) →
        cs.length + kept.length ≤ found.length + held.length + bytes.length := by
  induction bytes with
  | nil =>
      intro found held p cs kept h
      simp only [decodeChunk, Option.some.injEq, Prod.mk.injEq] at h
      rw [← h.1, ← h.2, List.length_reverse, List.length_reverse]
      exact Nat.le_refl _
  | cons b rest ih =>
      intro found held p cs kept h
      rw [List.length_cons]
      cases p with
      | none =>
          rw [decodeChunk] at h
          split at h
          · have := ih _ _ _ cs kept h
            rw [List.length_cons, List.length_nil] at this
            omega
          · exact nomatch h
          · have := ih _ _ _ cs kept h
            rw [List.length_singleton] at this
            omega
      | some p =>
          rw [decodeChunk] at h
          split at h
          · split at h
            · have := ih _ _ _ cs kept h
              rw [List.length_cons, List.length_nil] at this
              omega
            · have := ih _ _ _ cs kept h
              rw [List.length_cons] at this
              omega
          · split at h
            · -- Of the two bytes that are held here, one was held before.
              rename_i hheld
              simp only [Bool.and_eq_true, beq_iff_eq] at hheld
              simp only [Option.some.injEq, Prod.mk.injEq] at h
              rw [← h.1, ← h.2, hheld.1.1.1, List.length_reverse]
              simp only [List.length_cons, List.length_nil]
              omega
            · exact nomatch h

end Utf8

namespace ChunkReader

/-- The number of characters that have been found, and of those at most that can be found in what is
    held and in what is left. -/
def size (r : ChunkReader) : Nat :=
  r.found.length + r.held.length + (if r.returned then 1 else 0) + r.rest.length

/-- No chunk makes the size grow. -/
theorem size_step (k : Nat) (r r' : ChunkReader) (h : r.step k = some r') : r'.size ≤ r.size := by
  rw [step] at h
  split at h
  · exact nomatch h
  · split at h
    · exact nomatch h
    · rename_i cs held hchunk
      have hbytes := Utf8.length_decodeChunk _ _ _ _ _ _ hchunk
      have hchars := length_normalizeChunk r.returned cs
      simp only [List.length_append, List.length_take, List.length_nil] at hbytes
      rw [← Option.some.inj h]
      simp only [size, List.length_append, List.length_reverse, List.length_drop, List.length_take]
      omega

/-- What is found until no chunk can be taken is no more than what there can be. -/
theorem length_run (k fuel : Nat) : ∀ r : ChunkReader, (run k fuel r).length ≤ r.size := by
  have hfound : ∀ r : ChunkReader, r.found.reverse.length ≤ r.size := fun r => by
    rw [List.length_reverse, size]
    omega
  induction fuel with
  | zero => exact hfound
  | succ fuel ih =>
      intro r
      rw [run]
      cases hstep : r.step k with
      | none => exact hfound r
      | some r' => exact Nat.le_trans (ih r') (size_step k r r' hstep)

end ChunkReader

/-- A file that is not text has no more characters than bytes. -/
theorem length_charsBeforeFault (k : Nat) (bytes : List UInt8) :
    (charsBeforeFault k bytes).length ≤ bytes.length := by
  refine Nat.le_trans (ChunkReader.length_run k _ _) (Nat.le_of_eq ?_)
  simp only [ChunkReader.size, List.length_nil, Bool.false_eq_true, if_false, Nat.zero_add]

end CodeAudit
