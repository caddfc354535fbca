import CodeAudit.Text.Case

/-!
# Small Letters

That a text in small letters stays as it is when it is put into small letters.

The mapping of characters is a table of runs, and each run moves its code points by one distance.
What a run moves its code points to is a run again, its image, and it is enough to compare images
with runs: they have no code point in common. They may overlap all the same, where both have every
second code point only and take turns. The comparison is made once for the whole table, and
everything about single characters follows from it.

The two letters that the mapping of texts treats on its own are moved by the table as well, so they
do not come up in a text in small letters, and neither the place of a letter in its word nor what
stands around it makes a difference any more.

## Main definitions

* `CaseRun.Has`: A code point belongs to a run.
* `CaseRun.image`: The run of what a run moves to.
* `CaseRun.isApart`: Runs have no code point in common.
* `IsSmall`: A character that is its own small form.

## Theorems

* `shifted_shifted`: What the table has moved it does not move again.
* `smallForm_smallForm`: The small form of a character is its own small form.
* `lowerText_lowerText`: A text in small letters stays as it is.
-/

namespace CodeAudit

/-! ## Runs -/

namespace CaseRun

/-- A code point belongs to a run. -/
def Has (r : CaseRun) (n : Nat) : Prop :=
  r.first ≤ n ∧ n ≤ r.last ∧ (n - r.first) % r.stride = 0

/-- The run of the code points that a run moves its own to. -/
def image (r : CaseRun) : CaseRun :=
  ⟨(r.first + r.shift).toNat, (r.last + r.shift).toNat, r.stride, 0⟩

/-- Runs have no code point in common: one of them lies below the other, or they take turns. -/
def isApart (r q : CaseRun) : Bool :=
  Nat.blt r.last q.first || Nat.blt q.last r.first ||
    (r.first == r.last || r.stride == q.stride) && r.first % q.stride != q.first % q.stride

/-- A code point of a run is a whole number of strides away from the first one. -/
theorem Has.mod_eq {r : CaseRun} {n : Nat} (h : r.Has n) : n % r.stride = r.first % r.stride := by
  rcases Nat.dvd_of_mod_eq_zero h.2.2 with ⟨k, hk⟩
  have hn : n = r.first + r.stride * k := by
    have hfirst := h.1
    omega
  rw [hn, Nat.add_mul_mod_self_left]

theorem not_has_of_isApart (r q : CaseRun) (h : r.isApart q = true) (n : Nat) (hr : r.Has n) :
    ¬ q.Has n := by
  intro hq
  have hbounds := Nat.le_trans hr.1 hq.2.1
  have hbounds' := Nat.le_trans hq.1 hr.2.1
  simp only [isApart, Bool.or_eq_true, Bool.and_eq_true, Nat.blt_eq, beq_iff_eq,
    bne_iff_ne] at h
  -- In a run below or above the other the bounds are against it. When they take turns the
  -- remainders are, or the run is a single code point.
  rcases h with (hbelow | habove) | ⟨hturns, hne⟩
  · exact absurd hbelow (Nat.not_lt.mpr hbounds')
  · exact absurd habove (Nat.not_lt.mpr hbounds)
  · refine hne ?_
    rw [← hq.mod_eq]
    rcases hturns with hone | hstride
    · rw [show n = r.first from Nat.le_antisymm (hone ▸ hr.2.1) hr.1]
    · rw [← hstride, hr.mod_eq]

/-- What a run moves to belongs to its image. -/
theorem Has.image {r : CaseRun} {n : Nat} (h : r.Has n) (hshift : 0 ≤ r.first + r.shift) :
    r.image.Has (n + r.shift).toNat := by
  rcases h with ⟨hfirst, hlast, hstride⟩
  have hfar : (n + r.shift).toNat - (r.first + r.shift).toNat = n - r.first := by
    omega
  refine ⟨?_, ?_, ?_⟩
  · exact Int.toNat_le_toNat (by omega)
  · exact Int.toNat_le_toNat (by omega)
  · rw [CaseRun.image, hfar, hstride]

end CaseRun

/-- A code point is left alone, or moved by a run that it belongs to. -/
theorem cases_of_shifted (runs : List CaseRun) (n : Nat) :
    shifted runs n = n ∨ ∃ r ∈ runs, r.Has n ∧ shifted runs n = (n + r.shift).toNat := by
  induction runs with
  | nil => exact Or.inl rfl
  | cons r rest ih =>
      rw [shifted]
      split
      · exact Or.inl rfl
      -- The search ends where the runs begin above the code point, so what is found belongs to
      -- its run.
      · split
        · rename_i hfirst hhas
          rw [Bool.and_eq_true, decide_eq_true_eq, beq_iff_eq] at hhas
          exact Or.inr ⟨r, List.mem_cons_self, ⟨Nat.le_of_not_lt hfirst, hhas⟩, rfl⟩
        · rcases ih with hsame | ⟨q, hq, hmoved⟩
          · exact Or.inl hsame
          · exact Or.inr ⟨q, List.mem_cons_of_mem r hq, hmoved⟩

/-- A code point that belongs to no run is left alone. -/
theorem shifted_of_not_has (runs : List CaseRun) (n : Nat) (h : ∀ r ∈ runs, ¬ r.Has n) :
    shifted runs n = n := by
  rcases cases_of_shifted runs n with hsame | ⟨r, hr, hhas, _⟩
  · exact hsame
  · exact absurd hhas (h r hr)

/-! ## The table of small letters -/

/-- The images of the runs of small letters have nothing in common with the runs. -/
theorem lowerRuns_apart :
    (lowerRuns.map CaseRun.image).all (fun r => lowerRuns.all r.isApart) = true := by
  decide +kernel

/-- The runs of small letters move nothing below zero, nothing onto the point, and nothing out of
    the characters. -/
theorem lowerRuns_inside : ∀ r ∈ lowerRuns, 0 ≤ r.first + r.shift ∧
    r.image.isApart ⟨46, 46, 1, 0⟩ = true ∧
    (r.image.last < 55296 ∨ 57343 < r.image.first ∧ r.image.last < 1114112) := by
  decide +kernel

/-- A code point is left alone by the table, or belongs to the image of one of its runs
    afterwards. -/
theorem cases_of_shifted_lowerRuns (n : Nat) :
    shifted lowerRuns n = n ∨ ∃ r ∈ lowerRuns, r.image.Has (shifted lowerRuns n) := by
  rcases cases_of_shifted lowerRuns n with hsame | ⟨r, hr, hhas, hmoved⟩
  · exact Or.inl hsame
  · rw [hmoved]
    exact Or.inr ⟨r, hr, hhas.image (lowerRuns_inside r hr).1⟩

/-- What the table has moved it does not move again. -/
theorem shifted_shifted (n : Nat) :
    shifted lowerRuns (shifted lowerRuns n) = shifted lowerRuns n := by
  rcases cases_of_shifted_lowerRuns n with hsame | ⟨r, hr, himage⟩
  · rw [hsame, hsame]
  -- What was moved lies in the image of a run, and no run has anything of an image.
  · refine shifted_of_not_has _ _ fun q hq => r.image.not_has_of_isApart q ?_ _ himage
    exact List.all_eq_true.mp
      (List.all_eq_true.mp lowerRuns_apart _ (List.mem_map_of_mem hr)) q hq

/-- The table moves nothing onto the point. -/
theorem eq_of_shifted_eq_point (n : Nat) (h : shifted lowerRuns n = 46) : n = 46 := by
  rcases cases_of_shifted_lowerRuns n with hsame | ⟨r, hr, himage⟩
  · rw [← hsame, h]
  · rw [h] at himage
    exact absurd ⟨Nat.le_refl 46, Nat.le_refl 46, rfl⟩
      (r.image.not_has_of_isApart _ (lowerRuns_inside r hr).2.1 46 himage)

/-- The table leads from characters to characters. -/
theorem isValidChar_shifted (n : Nat) (hn : n.isValidChar) :
    (shifted lowerRuns n).isValidChar := by
  rcases cases_of_shifted_lowerRuns n with hsame | ⟨r, hr, himage⟩
  · rw [hsame]
    exact hn
  · have hcharacters := (lowerRuns_inside r hr).2.2
    -- An image does not touch the code points that are no characters.
    rcases himage with ⟨hfirst, hlast, _⟩
    rw [Nat.isValidChar]
    omega

/-! ## Characters -/

theorem toNat_smallForm (c : Char) : (smallForm c).toNat = shifted lowerRuns c.toNat := by
  rw [smallForm, Char.ofNat, dif_pos (isValidChar_shifted c.toNat c.valid)]
  rfl

/-- The small form of a character is its own small form. -/
theorem smallForm_smallForm (c : Char) : smallForm (smallForm c) = smallForm c := by
  rw [← Char.toNat_inj, toNat_smallForm, toNat_smallForm, shifted_shifted]

theorem eq_of_smallForm_eq_point (c : Char) (h : smallForm c = '.') : c = '.' := by
  have hcode := congrArg Char.toNat h
  rw [toNat_smallForm] at hcode
  exact Char.toNat_inj.mp (eq_of_shifted_eq_point c.toNat hcode)

/-- A character that is its own small form. -/
def IsSmall (c : Char) : Prop :=
  smallForm c = c

/-- The letters that the mapping of texts treats on their own are not small. -/
theorem IsSmall.ne {c : Char} (h : IsSmall c) : c ≠ 'Σ' ∧ c ≠ 'İ' := by
  constructor
  · rintro rfl
    exact absurd h (show ¬ smallForm 'Σ' = 'Σ' by decide +kernel)
  · rintro rfl
    exact absurd h (show ¬ smallForm 'İ' = 'İ' by decide +kernel)

/-! ## Texts -/

/-- The characters of a text in small letters are their own small forms. -/
theorem isSmall_of_mem_lowerFrom (cs : List Char) :
    ∀ before, ∀ c ∈ lowerFrom before cs, IsSmall c := by
  -- A sigma, at the end of a word or not, and a dotted capital are the letters that are written
  -- in a form of their own.
  have hspecial : ∀ c ∈ ['ς', 'σ', 'i', '\u0307'], smallForm c = c := by
    have hall : (['ς', 'σ', 'i', '\u0307'].all fun c => smallForm c == c) = true := by
      decide +kernel
    exact fun c hc => eq_of_beq (List.all_eq_true.mp hall c hc)
  induction cs with
  | nil => exact fun _ c hc => absurd hc List.not_mem_nil
  | cons d rest ih =>
      intro before c hc
      rw [lowerFrom, List.mem_append] at hc
      rcases hc with hc | hc
      · split at hc
        · refine hspecial c ?_
          split at hc
          · exact (List.mem_singleton.mp hc) ▸ List.mem_cons_self
          · exact (List.mem_singleton.mp hc) ▸ List.mem_cons_of_mem _ List.mem_cons_self
        · split at hc
          · exact hspecial c (List.mem_cons_of_mem _ (List.mem_cons_of_mem _ hc))
          · rw [List.mem_singleton.mp hc]
            exact smallForm_smallForm d
      · exact ih _ c hc

/-- Where all characters are their own small forms, a text stays as it is. -/
theorem lowerFrom_of_isSmall (cs : List Char) :
    ∀ before, (∀ c ∈ cs, IsSmall c) → lowerFrom before cs = cs := by
  induction cs with
  | nil => exact fun _ _ => rfl
  | cons c rest ih =>
      intro before h
      rw [List.forall_mem_cons] at h
      rw [lowerFrom, beq_false_of_ne h.1.ne.1, beq_false_of_ne h.1.ne.2, ih _ h.2,
        show smallForm c = c from h.1]
      rfl

/-- A text in small letters stays as it is. -/
theorem lowerText_lowerText (cs : List Char) : lowerText (lowerText cs) = lowerText cs :=
  lowerFrom_of_isSmall _ _ (isSmall_of_mem_lowerFrom cs [])

/-- A text in small letters begins with a point only if the text did. -/
theorem head?_lowerText (cs : List Char) (h : (lowerText cs).head? = some '.') :
    cs.head? = some '.' := by
  cases cs with
  | nil => exact nomatch h
  | cons c rest =>
      rw [lowerText, lowerFrom] at h
      split at h
      · rw [List.singleton_append, List.head?_cons, Option.some.injEq] at h
        split at h
        · exact absurd h (by decide)
        · exact absurd h (by decide)
      · split at h
        · exact absurd (Option.some.inj h) (by decide)
        · rw [List.singleton_append, List.head?_cons, Option.some.injEq] at h
          rw [eq_of_smallForm_eq_point c h]
          rfl

end CodeAudit
