import CodeAudit.Keyed
import Mathlib.Algebra.GroupWithZero.Nat
import Mathlib.Data.List.Nodup

/-!
# Tables That Are Filled In A Loop

What a keyed list holds that is built one entry at a time.

Each step of such a loop changes the entry under one key and no other, and makes the entry if there
is none. So no key comes up twice, and what is under a key can be told without the other keys. Where
the entries are lists that grow, a key is there if its list is not empty, which is what `Groups`
says: a key without an entry and a key with an empty list are the same to a reader of the loop.

## Main definitions

* `Keyed.Groups`: A table holds a list for each key.

## Theorems

* `Keyed.get?_adjust`: A step changes the entry under one key.
* `Keyed.nodup_foldl_adjust`: No key comes up twice in a table that is filled in a loop.
* `Keyed.sum_tally`: The counts of the members of a list add up to its length.
* `Keyed.getD_tally`: Under a key is how often it occurs.
* `Keyed.pos_of_mem_tally`: There is no entry for what does not occur.
* `Keyed.Groups.adjust`: A step changes one of the lists.
-/

namespace CodeAudit

namespace Keyed

variable {κ β : Type} [DecidableEq κ]

theorem mem_keys_adjust (key other : κ) (change : Option β → β) (entries : Keyed κ β) :
    other ∈ (adjust key change entries).map Prod.fst ↔
      other = key ∨ other ∈ entries.map Prod.fst := by
  induction entries with
  | nil => simp only [adjust, List.map_cons, List.map_nil, List.mem_cons]
  | cons e entries ih =>
      rcases e with ⟨k, b⟩
      rw [adjust]
      by_cases hk : k = key
      · rw [if_pos hk, List.map_cons, List.map_cons, List.mem_cons, hk]
        exact ⟨Or.inr, fun h => h.elim Or.inl id⟩
      · simp only [if_neg hk, List.map_cons, List.mem_cons, ih]
        exact or_left_comm

theorem nodup_adjust (key : κ) (change : Option β → β) (entries : Keyed κ β)
    (h : (entries.map Prod.fst).Nodup) : ((adjust key change entries).map Prod.fst).Nodup := by
  induction entries with
  | nil => exact List.nodup_cons.mpr ⟨List.not_mem_nil, List.nodup_nil⟩
  | cons e entries ih =>
      rcases e with ⟨k, b⟩
      rw [List.map_cons, List.nodup_cons] at h
      rw [adjust]
      -- The entry found keeps its key; the entry made at the end has a key that was nowhere.
      by_cases hk : k = key
      · rw [if_pos hk, List.map_cons, List.nodup_cons]
        exact h
      · rw [if_neg hk, List.map_cons, List.nodup_cons, mem_keys_adjust]
        exact ⟨fun hmem => hmem.elim hk h.1, ih h.2⟩

/-- No key comes up twice in a table that is filled in a loop. -/
theorem nodup_foldl_adjust {α : Type} (key : α → κ) (change : α → Option β → β) (xs : List α) :
    ∀ entries : Keyed κ β, (entries.map Prod.fst).Nodup →
      ((xs.foldl (fun entries x => adjust (key x) (change x) entries) entries).map
        Prod.fst).Nodup := by
  induction xs with
  | nil => exact fun _ h => h
  | cons x xs ih => exact fun entries h => ih _ (nodup_adjust (key x) (change x) entries h)

/-- Counting gives each key one entry. -/
theorem nodup_tally (keys : List κ) : ((tally keys).map Prod.fst).Nodup :=
  nodup_foldl_adjust id (fun _ n => n.getD 0 + 1) keys [] List.nodup_nil

theorem mem_keys_foldl_adjust {α : Type} (key : α → κ) (change : α → Option β → β) (other : κ)
    (xs : List α) : ∀ entries : Keyed κ β,
      other ∈ (xs.foldl (fun entries x => adjust (key x) (change x) entries) entries).map Prod.fst ↔
        other ∈ xs.map key ∨ other ∈ entries.map Prod.fst := by
  induction xs with
  | nil => exact fun entries => (or_iff_right List.not_mem_nil).symm
  | cons x xs ih =>
      intro entries
      rw [List.foldl_cons, ih, mem_keys_adjust, List.map_cons, List.mem_cons, or_left_comm,
        or_assoc]

/-- Counting gives an entry to what is counted. -/
theorem mem_keys_tally (keys : List κ) (key : κ) :
    key ∈ (tally keys).map Prod.fst ↔ key ∈ keys := by
  have hkeys := mem_keys_foldl_adjust id (fun _ (n : Option Nat) => n.getD 0 + 1) key keys []
  rw [List.map_id] at hkeys
  exact hkeys.trans (or_iff_left List.not_mem_nil)

/-- A step changes the entry under one key. -/
theorem get?_adjust (key other : κ) (change : Option β → β) (entries : Keyed κ β) :
    get? other (adjust key change entries) =
      if other = key then some (change (get? key entries)) else get? other entries := by
  induction entries with
  | nil =>
      have hmade : get? other [(key, change none)] =
          if key = other then some (change none) else none := rfl
      rw [adjust, hmade]
      by_cases hother : other = key
      · rw [if_pos hother, if_pos hother.symm]
        rfl
      · rw [if_neg hother, if_neg (Ne.symm hother)]
        rfl
  | cons e entries ih =>
      rcases e with ⟨k, b⟩
      rw [adjust]
      -- The step stops at the first entry with its key, which is the one a reader would find.
      by_cases hk : k = key
      · subst hk
        by_cases hother : other = k
        · simp only [if_true, get?, hother]
        · simp only [if_true, get?, if_neg hother, if_neg (Ne.symm hother)]
      · rw [if_neg hk, get?, ih, get?, get?, if_neg hk]
        by_cases hother : k = other
        · rw [if_pos hother, if_neg (hother ▸ hk), if_pos hother]
        · rw [if_neg hother, if_neg hother]

theorem mem_keys_iff (key : κ) (entries : Keyed κ β) :
    key ∈ entries.map Prod.fst ↔ get? key entries ≠ none := by
  induction entries with
  | nil => exact ⟨fun h => absurd h List.not_mem_nil, fun h => absurd rfl h⟩
  | cons e entries ih =>
      rcases e with ⟨k, b⟩
      rw [List.map_cons, List.mem_cons, get?]
      by_cases hk : k = key
      · rw [if_pos hk]
        exact ⟨fun _ => Option.some_ne_none b, fun _ => Or.inl hk.symm⟩
      · rw [if_neg hk, ih]
        exact or_iff_right (Ne.symm hk)

/-- If no key comes up twice, an entry is found under its key. -/
theorem get?_of_mem (key : κ) (b : β) (entries : Keyed κ β) (h : (entries.map Prod.fst).Nodup)
    (hmem : (key, b) ∈ entries) : get? key entries = some b := by
  induction entries with
  | nil => exact absurd hmem List.not_mem_nil
  | cons e entries ih =>
      rcases e with ⟨k, c⟩
      rw [List.map_cons, List.nodup_cons] at h
      rw [get?]
      rcases List.mem_cons.mp hmem with hfirst | hrest
      · rw [Prod.mk.injEq] at hfirst
        rw [if_pos hfirst.1.symm, hfirst.2]
      · rw [if_neg fun hk => h.1 (List.mem_map.mpr ⟨_, hrest, hk.symm⟩)]
        exact ih h.2 hrest

/-! ## Counting -/

theorem sum_adjust (key : κ) (entries : Keyed κ Nat) :
    ((adjust key (fun n => n.getD 0 + 1) entries).map Prod.snd).sum =
      (entries.map Prod.snd).sum + 1 := by
  induction entries with
  | nil => rfl
  | cons e entries ih =>
      rcases e with ⟨k, n⟩
      rw [adjust]
      by_cases hk : k = key
      · rw [if_pos hk, List.map_cons, List.map_cons, List.sum_cons, List.sum_cons]
        exact Nat.add_right_comm n 1 _
      · rw [if_neg hk, List.map_cons, List.map_cons, List.sum_cons, List.sum_cons, ih]
        rfl

/-- The counts of the members of a list add up to its length. -/
theorem sum_tally (keys : List κ) : ((tally keys).map Prod.snd).sum = keys.length := by
  have hfrom : ∀ (keys : List κ) (entries : Keyed κ Nat),
      ((keys.foldl (fun entries key => adjust key (fun n => n.getD 0 + 1) entries) entries).map
        Prod.snd).sum = (entries.map Prod.snd).sum + keys.length := by
    intro keys
    induction keys with
    | nil => exact fun _ => rfl
    | cons key keys ih =>
        intro entries
        rw [List.foldl_cons, ih, sum_adjust, List.length_cons, Nat.add_assoc, Nat.add_comm 1]
  exact (hfrom keys []).trans (Nat.zero_add _)

/-- Under a key is how often it occurs, if it does. -/
theorem getD_tally (keys : List κ) (key : κ) :
    (get? key (tally keys)).getD 0 = keys.count key := by
  have hfrom : ∀ (keys : List κ) (entries : Keyed κ Nat),
      (get? key (keys.foldl (fun entries key => adjust key (fun n => n.getD 0 + 1) entries)
        entries)).getD 0 = (get? key entries).getD 0 + keys.count key := by
    intro keys
    induction keys with
    | nil => exact fun _ => rfl
    | cons first keys ih =>
        intro entries
        -- The key that is counted is the one that is asked for, or another one.
        rw [List.foldl_cons, ih, get?_adjust, List.count_cons]
        by_cases hkey : key = first
        · rw [if_pos hkey, hkey, beq_self_eq_true, if_pos rfl, Option.getD_some, Nat.add_assoc,
            Nat.add_comm 1]
        · rw [if_neg hkey, beq_eq_false_iff_ne.mpr (Ne.symm hkey), if_neg Bool.false_ne_true,
            Nat.add_zero]
  exact (hfrom keys []).trans (Nat.zero_add _)

/-- There is no entry for what does not occur. -/
theorem pos_of_mem_tally (keys : List κ) (p : κ × Nat) (hp : p ∈ tally keys) : 0 < p.2 := by
  have hcount := getD_tally keys p.1
  rw [get?_of_mem p.1 p.2 _ (nodup_tally keys) hp, Option.getD_some] at hcount
  rw [hcount, List.count_pos_iff, ← mem_keys_tally]
  exact List.mem_map_of_mem hp

/-! ## Lists that grow -/

variable {α : Type}

/-- A table holds a list for each key. There is no entry for an empty list. -/
def Groups (table : Keyed κ (List α)) (of : κ → List α) : Prop :=
  ∀ key, get? key table = if of key = [] then none else some (of key)

namespace Groups

variable {table : Keyed κ (List α)} {of : κ → List α}

theorem nil : Groups ([] : Keyed κ (List α)) fun _ => [] :=
  fun _ => rfl

theorem congr {of' : κ → List α} (h : Groups table of) (hsame : ∀ key, of key = of' key) :
    Groups table of' :=
  funext hsame ▸ h

theorem getD (h : Groups table of) (key : κ) : (get? key table).getD [] = of key := by
  rw [h key]
  split
  · rename_i hnil
    rw [hnil]
    rfl
  · rfl

theorem mem_keys_iff (h : Groups table of) (key : κ) :
    key ∈ table.map Prod.fst ↔ of key ≠ [] := by
  rw [Keyed.mem_keys_iff, h key]
  split
  · rename_i hnil
    exact iff_of_false (fun hne => hne rfl) fun hne => hne hnil
  · rename_i hne
    exact iff_of_true (Option.some_ne_none _) hne

theorem eq_of_mem (h : Groups table of) (hnodup : (table.map Prod.fst).Nodup) {key : κ}
    {xs : List α} (hmem : (key, xs) ∈ table) : xs = of key := by
  rw [← h.getD key, get?_of_mem key xs table hnodup hmem]
  rfl

/-- A step changes one of the lists. It leaves none of them empty that was not. -/
theorem adjust (h : Groups table of) (key : κ) (grow : List α → List α)
    (hgrow : grow (of key) ≠ []) :
    Groups (Keyed.adjust key (fun xs => grow (xs.getD [])) table) fun other =>
      if other = key then grow (of other) else of other := by
  intro other
  rw [get?_adjust, h.getD]
  by_cases hother : other = key
  · subst hother
    simp only [if_true, if_neg hgrow]
  · simp only [if_neg hother, h other]

end Groups

end Keyed

end CodeAudit
