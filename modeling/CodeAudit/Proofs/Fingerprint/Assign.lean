import CodeAudit.Proofs.Fingerprint.Key

/-!
# Keys of a Scan

When the findings of one scan have different keys.

Findings are numbered among those that are alike, and are told apart by their keys. These
are two different things. Findings that are alike have different numbers, so their keys are
different. Findings that are not alike are numbered each from zero, and nothing but the first
three parts of their keys can tell them apart. So a scan has a key twice exactly if two of
its findings are not alike and have the same body.

There are such findings. The path of a finding is in its key with forward slashes, and in its
likeness as it is; and a bar in a path may be taken for the end of it.

## Main definitions

* `scanKeys`: The keys of the findings of a scan.
* `SharesBodyOnlyIfAlike`: Findings that share a body are alike.

## Theorems

* `fingerprints_assignFingerprints`: Fingerprints are the digests of the keys.
* `exists_of_mem_keysAfter`, `key_mem_keysAfter`: Which keys there are.
* `nodup_keysAfter`: All keys are different, if no findings share a body and are not alike.
* `likeness_eq_of_nodup`: Findings that share a body are alike, if all keys are different.
* `nodup_scanKeys_iff`: The keys of a scan are all different exactly if findings that share
  a body are alike.
-/

namespace CodeAudit

/-- The keys of findings, given what was like them before. -/
def keysAfter (before : List (String × String × List Char)) : List Finding → List (List Char)
  | [] => []
  | f :: rest => f.key (before.count f.likeness) :: keysAfter (f.likeness :: before) rest

/-- The keys of the findings of a scan. -/
def scanKeys (fs : List Finding) : List (List Char) :=
  keysAfter [] fs

theorem fingerprints_assignAfter (fs : List Finding) :
    ∀ before, (assignAfter before fs).map Finding.fingerprint =
      (keysAfter before fs).map fun k => Sha256.digest (Utf8.encode k) := by
  induction fs with
  | nil => exact fun _ => rfl
  | cons f rest ih =>
      intro before
      rw [assignAfter, keysAfter, List.map_cons, List.map_cons, ih]
      rfl

/-- Fingerprints are the digests of the keys. -/
theorem fingerprints_assignFingerprints (fs : List Finding) :
    (assignFingerprints fs).map Finding.fingerprint =
      (scanKeys fs).map fun k => Sha256.digest (Utf8.encode k) :=
  fingerprints_assignAfter fs []

/-- No number is lower than that of the findings before. -/
theorem exists_of_mem_keysAfter (fs : List Finding) (k : List Char) :
    ∀ before, k ∈ keysAfter before fs →
      ∃ f ∈ fs, ∃ n, before.count f.likeness ≤ n ∧ k = f.key n := by
  induction fs with
  | nil => exact fun _ h => absurd h List.not_mem_nil
  | cons f rest ih =>
      intro before h
      rw [keysAfter, List.mem_cons] at h
      rcases h with heq | hrest
      · exact ⟨f, List.mem_cons_self, _, Nat.le_refl _, heq⟩
      · rcases ih _ hrest with ⟨g, hg, n, hle, heq⟩
        refine ⟨g, List.mem_cons_of_mem f hg, n, Nat.le_trans ?_ hle, heq⟩
        exact List.count_le_count_cons

/-- The first finding of its kind has the number of those before. -/
theorem key_mem_keysAfter (fs : List Finding) (f : Finding) :
    ∀ before, f ∈ fs → f.key (before.count f.likeness) ∈ keysAfter before fs := by
  induction fs with
  | nil => exact fun _ h => absurd h List.not_mem_nil
  | cons g rest ih =>
      intro before h
      rw [keysAfter, List.mem_cons]
      by_cases hlike : f.likeness = g.likeness
      · left
        rw [f.key_inj g, hlike]
        exact ⟨f.body_eq_of_likeness g hlike, rfl⟩
      · -- It is counted as if the first one was not there, which is not like it.
        right
        have hne : f ≠ g := fun heq => hlike (congrArg Finding.likeness heq)
        have hmem := ih (g.likeness :: before) ((List.mem_cons.mp h).resolve_left hne)
        rw [List.count_cons_of_ne (Ne.symm hlike)] at hmem
        exact hmem

/-! ## Different keys -/

/-- Findings that share a body are alike. -/
def SharesBodyOnlyIfAlike (fs : List Finding) : Prop :=
  ∀ f ∈ fs, ∀ g ∈ fs, f.body = g.body → f.likeness = g.likeness

/-- All keys are different, if findings that share a body are alike. -/
theorem nodup_keysAfter (fs : List Finding) :
    ∀ before, SharesBodyOnlyIfAlike fs → (keysAfter before fs).Nodup := by
  induction fs with
  | nil => exact fun _ _ => List.nodup_nil
  | cons f rest ih =>
      intro before h
      rw [keysAfter, List.nodup_cons]
      refine ⟨fun hmem => ?_, ih _ fun g hg g' hg' =>
        h g (List.mem_cons_of_mem f hg) g' (List.mem_cons_of_mem f hg')⟩
      rcases exists_of_mem_keysAfter rest _ _ hmem with ⟨g, hg, n, hle, heq⟩
      rcases (f.key_inj g _ n).mp heq with ⟨hbody, hnumber⟩
      -- The finding is counted among those before the other one.
      rw [← h f List.mem_cons_self g (List.mem_cons_of_mem f hg) hbody,
        List.count_cons_self] at hle
      omega

/-- The first finding has the key of a later one that shares its body, is not like it, and
    is as often among those before. -/
theorem not_nodup_keysAfter (before : List (String × String × List Char)) (f g : Finding)
    (rest : List Finding) (hg : g ∈ rest) (hbody : f.body = g.body)
    (hlike : f.likeness ≠ g.likeness)
    (hcount : before.count f.likeness = before.count g.likeness) :
    ¬ (keysAfter before (f :: rest)).Nodup := by
  rw [keysAfter, List.nodup_cons]
  intro h
  have hmem := key_mem_keysAfter rest g (f.likeness :: before) hg
  rw [List.count_cons_of_ne hlike, ← hcount, ← (f.key_inj g _ _).mpr ⟨hbody, rfl⟩] at hmem
  exact h.1 hmem

/-- Findings that share a body are alike, if all keys are different. -/
theorem likeness_eq_of_nodup (fs : List Finding) :
    ∀ before, (keysAfter before fs).Nodup → ∀ f ∈ fs, ∀ g ∈ fs, f.body = g.body →
      before.count f.likeness = before.count g.likeness → f.likeness = g.likeness := by
  induction fs with
  | nil => exact fun _ _ _ h => absurd h List.not_mem_nil
  | cons first rest ih =>
      intro before hnodup f hf g hg hbody hcount
      refine Classical.byContradiction fun hlike => ?_
      have hlater : ∀ f' ∈ first :: rest, f'.likeness ≠ first.likeness → f' ∈ rest :=
        fun f' hf' hne => (List.mem_cons.mp hf').resolve_left fun heq =>
          hne (congrArg Finding.likeness heq)
      -- If one of the two is like the first finding, the first has the key of the other. If neither
      -- is, both are counted behind it as they were before.
      by_cases hfirst : f.likeness = first.likeness
      · refine not_nodup_keysAfter before first g rest ?_ ?_ (hfirst ▸ hlike) (hfirst ▸ hcount)
          hnodup
        · exact hlater g hg fun heq => hlike (hfirst.trans heq.symm)
        · rw [← hbody, f.body_eq_of_likeness first hfirst]
      · by_cases hsecond : g.likeness = first.likeness
        · refine not_nodup_keysAfter before first f rest (hlater f hf hfirst) ?_
            (fun heq => hfirst heq.symm) (hsecond ▸ hcount.symm) hnodup
          rw [hbody, g.body_eq_of_likeness first hsecond]
        · rw [keysAfter, List.nodup_cons] at hnodup
          refine hlike (ih _ hnodup.2 f (hlater f hf hfirst) g (hlater g hg hsecond) hbody ?_)
          rw [List.count_cons_of_ne (Ne.symm hfirst), List.count_cons_of_ne (Ne.symm hsecond)]
          exact hcount

theorem nodup_scanKeys (fs : List Finding) :
    (scanKeys fs).Nodup ↔ SharesBodyOnlyIfAlike fs :=
  ⟨fun h f hf g hg hbody => likeness_eq_of_nodup fs [] h f hf g hg hbody rfl,
    nodup_keysAfter fs []⟩

/-- Without bars, findings share a body exactly if they differ at most in the slashes of their
    paths. -/
theorem sharesBodyOnlyIfAlike_of_noBar (fs : List Finding) (h : ∀ f ∈ fs, f.HasNoBar) :
    SharesBodyOnlyIfAlike fs ↔ ∀ f ∈ fs, ∀ g ∈ fs, f.ruleId = g.ruleId →
      forwardSlashes f.path.toList = forwardSlashes g.path.toList →
      squeeze f.matched.toList = squeeze g.matched.toList → f.path = g.path := by
  refine ⟨fun hshare f hf g hg hrule hpath htext => ?_, fun hpaths f hf g hg hbody => ?_⟩
  · have hlike := hshare f hf g hg ((f.body_inj g (h f hf) (h g hg)).mpr ⟨hrule, hpath, htext⟩)
    rw [Finding.likeness, Finding.likeness, Prod.mk.injEq, Prod.mk.injEq] at hlike
    exact hlike.2.1
  · rcases (f.body_inj g (h f hf) (h g hg)).mp hbody with ⟨hrule, hpath, htext⟩
    rw [Finding.likeness, Finding.likeness, hrule, htext,
      hpaths f hf g hg hrule hpath htext]

/-- The keys of a scan are all different exactly if findings that share a body are alike.
    Where rules and paths have no bars, that is if no two paths differ only in their slashes,
    and it is always so where paths have no backslashes either. -/
theorem nodup_scanKeys_iff (fs : List Finding) :
    (assignFingerprints fs).map Finding.fingerprint =
      ((scanKeys fs).map fun k => Sha256.digest (Utf8.encode k)) ∧
    ((scanKeys fs).Nodup ↔ SharesBodyOnlyIfAlike fs) ∧
    ((∀ f ∈ fs, f.HasNoBar) → ((scanKeys fs).Nodup ↔ ∀ f ∈ fs, ∀ g ∈ fs,
      f.ruleId = g.ruleId →
      forwardSlashes f.path.toList = forwardSlashes g.path.toList →
      squeeze f.matched.toList = squeeze g.matched.toList → f.path = g.path)) ∧
    ((∀ f ∈ fs, f.HasNoBar ∧ '\\' ∉ f.path.toList) → (scanKeys fs).Nodup) := by
  refine ⟨fingerprints_assignFingerprints fs, nodup_scanKeys fs, fun hbar => ?_, fun h => ?_⟩
  · rw [nodup_scanKeys, sharesBodyOnlyIfAlike_of_noBar fs hbar]
  · rw [nodup_scanKeys, sharesBodyOnlyIfAlike_of_noBar fs fun f hf => (h f hf).1]
    intro f hf g hg _ hpath _
    rw [forwardSlashes_of_not_mem _ (h f hf).2, forwardSlashes_of_not_mem _ (h g hg).2] at hpath
    exact String.toList_inj.mp hpath

/-- A finding of a rule in a file. -/
def foundIn (ruleId path matched : String) : Finding :=
  { ruleId, ruleName := ruleId, severity := .high, category := .security, description := "",
    path, line := 1, column := 1, snippet := matched, matched, compliance := [],
    quickFix := none, status := none, firstDetected := .null, lastDetected := .null,
    fingerprint := "" }

theorem nodup_scanKeys_iff_repeated :
    (∀ f ∈ [foundIn "R" "a/b.py" "x  y", foundIn "R" "a/b.py" "x y"],
      f.HasNoBar ∧ '\\' ∉ f.path.toList) ∧
    (scanKeys [foundIn "R" "a/b.py" "x  y", foundIn "R" "a/b.py" "x y"]).Nodup := by
  have h : ∀ f ∈ [foundIn "R" "a/b.py" "x  y", foundIn "R" "a/b.py" "x y"],
      f.HasNoBar ∧ '\\' ∉ f.path.toList := by decide
  exact ⟨h, (nodup_scanKeys_iff _).2.2.2 h⟩

/-- Two files whose paths differ only in a slash give one key twice, and so do a path and a
    text with a bar between them. -/
theorem not_nodup_scanKeys :
    ¬ (scanKeys [foundIn "R" "a/b.py" "x", foundIn "R" "a\\b.py" "x"]).Nodup ∧
    ¬ (scanKeys [foundIn "R" "a" "b|x", foundIn "R" "a|b" "x"]).Nodup := by
  have hslash : (foundIn "R" "a/b.py" "x").body = (foundIn "R" "a\\b.py" "x").body := by decide
  have hbar : (foundIn "R" "a" "b|x").body = (foundIn "R" "a|b" "x").body := by decide
  exact ⟨not_nodup_keysAfter [] _ _ _ List.mem_cons_self hslash (by decide) rfl,
    not_nodup_keysAfter [] _ _ _ List.mem_cons_self hbar (by decide) rfl⟩

end CodeAudit
