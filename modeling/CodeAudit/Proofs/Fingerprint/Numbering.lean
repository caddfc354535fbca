import CodeAudit.Proofs.Fingerprint.Assign
import Mathlib.Data.List.Forall2

/-!
# Numbers of Findings

That the fingerprints of a scan do not depend on the order of its findings.

A finding gets the number of those before it that are like it, so its own number depends on where
it stands. The numbers that are given to all findings of a kind do not. `mem_numberedAfter` is the
invariant: behind some findings, a kind is given the numbers from that of its findings among those
before up to that of its findings among all, and each of them once. Both ends are counts, and
counts do not see an order.

A finding is a kind and a number as far as its fingerprint goes. So fingerprints are computed from
the numbered kinds alone, and whatever else a finding says makes no difference.

## Main definitions

* `numberedAfter`: The members of a list, each with the number of those before that equal it.
* `Finding.keyOf`: The key of a kind of findings with a number.

## Theorems

* `mem_numberedAfter`: The numbers that a member is given.
* `perm_numberedAfter`: The numbered members do not depend on the order.
* `keysAfter_eq`: Keys are those of the numbered kinds.
* `assignAfter_assignAfter`: Findings that have their fingerprints keep them.
* `fingerprints_of_alike`: Fingerprints do not depend on order and place.
-/

namespace CodeAudit

/-! ## Numbers -/

section

variable {κ : Type} [BEq κ] [LawfulBEq κ]

/-- The members of a list, each with the number of those before it that equal it, given what was
    before the list. -/
def numberedAfter (before : List κ) : List κ → List (κ × Nat)
  | [] => []
  | a :: rest => (a, before.count a) :: numberedAfter (a :: before) rest

/-- A member is given the numbers from its count before the list up to its count at the end. -/
theorem mem_numberedAfter (as : List κ) (a : κ) (n : Nat) :
    ∀ before : List κ, (a, n) ∈ numberedAfter before as ↔
      before.count a ≤ n ∧ n < before.count a + as.count a := by
  induction as with
  | nil =>
      intro before
      rw [numberedAfter, List.count_nil]
      exact ⟨fun h => absurd h List.not_mem_nil, fun h => absurd h.2 (Nat.not_lt.mpr h.1)⟩
  | cons b rest ih =>
      intro before
      rw [numberedAfter, List.mem_cons, ih, Prod.mk.injEq]
      -- The first member takes the lowest number that is left, if it is the one asked for.
      by_cases hab : a = b
      · subst hab
        rw [List.count_cons_self, List.count_cons_self, eq_self, true_and]
        omega
      · rw [List.count_cons_of_ne (Ne.symm hab), List.count_cons_of_ne (Ne.symm hab)]
        exact ⟨fun h => h.resolve_left fun heq => hab heq.1, Or.inr⟩

/-- No member is given a number twice. -/
theorem nodup_numberedAfter (as : List κ) :
    ∀ before : List κ, (numberedAfter before as).Nodup := by
  induction as with
  | nil => exact fun _ => List.nodup_nil
  | cons b rest ih =>
      intro before
      rw [numberedAfter, List.nodup_cons]
      refine ⟨fun hmem => ?_, ih _⟩
      -- From here on its count is greater than the number it was given.
      have hle := ((mem_numberedAfter rest b _ _).mp hmem).1
      rw [List.count_cons_self] at hle
      omega

/-- The numbered members do not depend on the order. -/
theorem perm_numberedAfter (before as bs : List κ) (h : ∀ a, as.count a = bs.count a) :
    (numberedAfter before as).Perm (numberedAfter before bs) := by
  rw [List.perm_ext_iff_of_nodup (nodup_numberedAfter as before) (nodup_numberedAfter bs before)]
  intro p
  rw [mem_numberedAfter as p.1 p.2, mem_numberedAfter bs p.1 p.2, h]

end

/-! ## Keys -/

/-- The key of a kind of findings with a number. -/
def Finding.keyOf (likeness : String × String × List Char) (number : Nat) : List Char :=
  likeness.1.toList ++ '|' :: forwardSlashes likeness.2.1.toList ++ '|' :: likeness.2.2 ++
    '|' :: (toString (number : Int)).toList

/-- Keys are those of the numbered kinds. -/
theorem keysAfter_eq (fs : List Finding) : ∀ before,
    keysAfter before fs =
      (numberedAfter before (fs.map Finding.likeness)).map fun p => Finding.keyOf p.1 p.2 := by
  induction fs with
  | nil => exact fun _ => rfl
  | cons f rest ih =>
      intro before
      rw [keysAfter, List.map_cons, numberedAfter, List.map_cons, ih]
      rfl

theorem count_map_likeness (fs : List Finding) (l : String × String × List Char) :
    (fs.map Finding.likeness).count l = fs.countP fun f => f.likeness == l := by
  rw [List.count, List.countP_map]
  rfl

/-! ## Findings -/

/-- Only the fingerprints of findings are changed. -/
theorem forall₂_assignAfter (fs : List Finding) : ∀ before,
    List.Forall₂ (fun f g => g = { f with fingerprint := g.fingerprint }) fs
      (assignAfter before fs) := by
  induction fs with
  | nil => exact fun _ => .nil
  | cons f rest ih => exact fun before => .cons rfl (ih _)

/-- Findings that have their fingerprints keep them. -/
theorem assignAfter_assignAfter (fs : List Finding) : ∀ before,
    assignAfter before (assignAfter before fs) = assignAfter before fs := by
  induction fs with
  | nil => exact fun _ => rfl
  | cons f rest ih =>
      intro before
      have hlike : (f.withOrdinal (before.count f.likeness)).likeness = f.likeness := rfl
      rw [assignAfter, assignAfter, hlike, ih]
      rfl

/-- Two scans that have as many findings of each kind have the same fingerprints, each as often,
    whatever the order of the findings and whatever else they say. Giving findings their
    fingerprints changes nothing else about them, and nothing at all if they have them. -/
theorem fingerprints_of_alike (fs gs : List Finding)
    (h : ∀ likeness, (fs.countP fun f => f.likeness == likeness) =
      gs.countP fun g => g.likeness == likeness) :
    ((assignFingerprints fs).map Finding.fingerprint).Perm
      ((assignFingerprints gs).map Finding.fingerprint) ∧
    List.Forall₂ (fun f g => g = { f with fingerprint := g.fingerprint }) fs
      (assignFingerprints fs) ∧
    assignFingerprints (assignFingerprints fs) = assignFingerprints fs := by
  refine ⟨?_, forall₂_assignAfter fs [], assignAfter_assignAfter fs []⟩
  rw [fingerprints_assignFingerprints, fingerprints_assignFingerprints, scanKeys, scanKeys,
    keysAfter_eq, keysAfter_eq]
  refine ((perm_numberedAfter [] _ _ fun likeness => ?_).map _).map _
  rw [count_map_likeness, count_map_likeness]
  exact h likeness

/-- Two findings of one kind and another one. -/
def scanBefore : List Finding :=
  [foundIn "R" "a.py" "x  y", foundIn "R" "b.py" "x y", foundIn "R" "a.py" "x y"]

/-- The same findings in another order and at other places, spaced differently. One of them has a
    fingerprint from before, and one of them a state. -/
def scanMoved : List Finding :=
  [{ foundIn "R" "b.py" "x\ny" with line := 7, snippet := "x", fingerprint := "0" },
    { foundIn "R" "a.py" "x y" with line := 9, status := some .fixed },
    { foundIn "R" "a.py" "\tx y " with column := 4, description := "moved" }]

theorem fingerprints_of_alike_moved :
    (∀ likeness, (scanBefore.countP fun f => f.likeness == likeness) =
      scanMoved.countP fun g => g.likeness == likeness) ∧
    ((assignFingerprints scanBefore).map Finding.fingerprint).Perm
      ((assignFingerprints scanMoved).map Finding.fingerprint) := by
  have hkinds : (scanBefore.map Finding.likeness).Perm (scanMoved.map Finding.likeness) := by
    decide +kernel
  have halike : ∀ likeness, (scanBefore.countP fun f => f.likeness == likeness) =
      scanMoved.countP fun g => g.likeness == likeness := by
    intro likeness
    rw [← count_map_likeness, ← count_map_likeness]
    exact hkinds.count_eq likeness
  exact ⟨halike, (fingerprints_of_alike scanBefore scanMoved halike).1⟩

end CodeAudit
