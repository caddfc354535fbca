import CodeAudit.Disk

/-!
# Trees of Folders

What a change under one name leaves as it is.

A disk is changed by setting or removing one name in one folder. `lookup_setName_ne` says
that no other name of that folder notices, and the lemmas about `descend` carry this through
the tree: the folder that was changed has its new entries, and everything that stands neither
under the name nor below it is what it was before. Only the entries of a folder are not compared,
because a folder on the way to the change has one entry changed. `Alike` says so.

## Main definitions

* `Entry.IsWay`: A folder or a link.
* `Entry.Alike`: The same entry, except for the entries of a folder.

## Theorems

* `Entry.lookup_setName_self`, `Entry.lookup_setName_ne`: What is found after a change.
* `Entry.nodup_setName`: A change does not make a name come up twice.
* `Entry.descend_update_self`: The changed folder has its new entries.
* `Entry.descend_update_alike`: What stands elsewhere stays.
-/

namespace CodeAudit

namespace Entry

variable {α : Type}

/-! ## One folder -/

theorem lookup_setName_self (name : String) (x : α) (entries : List (String × α)) :
    (setName name (some x) entries).lookup name = some x := by
  induction entries with
  | nil =>
      simp only [setName, Option.toList_some, List.map_cons, List.map_nil, List.lookup_cons_self]
  | cons p rest ih =>
      rcases p with ⟨n, y⟩
      rw [setName]
      by_cases hn : n = name
      · simp only [hn, beq_self_eq_true, if_true, Option.toList_some, List.map_cons, List.map_nil,
          List.cons_append, List.lookup_cons_self]
      · have hne : (name == n) = false := beq_eq_false_iff_ne.mpr (Ne.symm hn)
        rw [if_neg (by rw [beq_iff_eq]; exact hn), List.lookup_cons, hne]
        exact ih

theorem lookup_setName_ne (name other : String) (h : other ≠ name) (e : Option α)
    (entries : List (String × α)) :
    (setName name e entries).lookup other = entries.lookup other := by
  have hne : (other == name) = false := beq_eq_false_iff_ne.mpr h
  -- What is put for `name`, one entry or none, is passed by when `other` is looked up.
  have hskip : ∀ rest, ((e.toList.map fun y => (name, y)) ++ rest).lookup other =
      rest.lookup other := by
    intro rest
    cases e with
    | none => rfl
    | some x => simp only [Option.toList_some, List.map_cons, List.map_nil, List.cons_append,
        List.nil_append, List.lookup_cons, hne]
  induction entries with
  | nil =>
      have hnil := hskip []
      rw [List.append_nil] at hnil
      exact hnil
  | cons p rest ih =>
      rcases p with ⟨n, y⟩
      rw [setName]
      by_cases hn : n = name
      · rw [if_pos (by rw [beq_iff_eq]; exact hn), hskip, List.lookup_cons, hn, hne]
      · rw [if_neg (by rw [beq_iff_eq]; exact hn), List.lookup_cons, List.lookup_cons, ih]

theorem lookup_eq_none_iff_not_mem (name : String) (entries : List (String × α)) :
    entries.lookup name = none ↔ name ∉ entries.map Prod.fst := by
  rw [List.lookup_eq_none_iff, List.mem_map, not_exists]
  refine forall_congr' fun p => ?_
  rw [not_and, bne_iff_ne]
  exact imp_congr_right fun _ => ne_comm

/-- A name that comes up once is gone when it has been removed. -/
theorem lookup_setName_none (name : String) (entries : List (String × α))
    (h : (entries.map Prod.fst).Nodup) : (setName name none entries).lookup name = none := by
  induction entries with
  | nil => rfl
  | cons p rest ih =>
      rcases p with ⟨n, y⟩
      rw [List.map_cons, List.nodup_cons] at h
      rw [setName]
      by_cases hn : n = name
      · rw [if_pos (by rw [beq_iff_eq]; exact hn), Option.toList_none, List.map_nil,
          List.nil_append, lookup_eq_none_iff_not_mem, ← hn]
        exact h.1
      · have hne : (name == n) = false := beq_eq_false_iff_ne.mpr (Ne.symm hn)
        rw [if_neg (by rw [beq_iff_eq]; exact hn), List.lookup_cons, hne]
        exact ih h.2

theorem mem_map_setName (name other : String) (e : Option α) (entries : List (String × α))
    (h : other ∈ (setName name e entries).map Prod.fst) :
    other = name ∨ other ∈ entries.map Prod.fst := by
  by_cases hother : other = name
  · exact Or.inl hother
  · -- A key that is not `name` is found as it was, so it is where it was.
    refine Or.inr (Classical.byContradiction fun hnot => ?_)
    rw [← lookup_eq_none_iff_not_mem, ← lookup_setName_ne name other hother e,
      lookup_eq_none_iff_not_mem] at hnot
    exact hnot h

-- A change leaves the other keys alone, so only the changed one could come up again; it is put
-- where the old one was, or at the end if there was none.
theorem nodup_setName (name : String) (e : Option α) (entries : List (String × α))
    (h : (entries.map Prod.fst).Nodup) : ((setName name e entries).map Prod.fst).Nodup := by
  have hsingle : ∀ rest : List (String × α), name ∉ rest.map Prod.fst →
      (rest.map Prod.fst).Nodup →
      (((e.toList.map fun y => (name, y)) ++ rest).map Prod.fst).Nodup := by
    intro rest hnew hrest
    cases e with
    | none => exact hrest
    | some x => exact List.nodup_cons.mpr ⟨hnew, hrest⟩
  induction entries with
  | nil =>
      have hnil := hsingle [] List.not_mem_nil List.nodup_nil
      rw [List.append_nil] at hnil
      exact hnil
  | cons p rest ih =>
      rcases p with ⟨n, y⟩
      rw [List.map_cons, List.nodup_cons] at h
      rw [setName]
      by_cases hn : n = name
      · rw [if_pos (by rw [beq_iff_eq]; exact hn)]
        exact hsingle rest (hn ▸ h.1) h.2
      · rw [if_neg (by rw [beq_iff_eq]; exact hn), List.map_cons, List.nodup_cons]
        refine ⟨fun hmem => ?_, ih h.2⟩
        rcases mem_map_setName name n e rest hmem with heq | hrest
        · exact hn heq
        · exact h.1 hrest

theorem setName_map {β : Type} (g : α → β) (name : String) (e : Option α)
    (entries : List (String × α)) :
    setName name (e.map g) (entries.map fun p => (p.1, g p.2)) =
      (setName name e entries).map fun p => (p.1, g p.2) := by
  have hsingle : ((e.map g).toList.map fun y => (name, y)) =
      (e.toList.map fun y => (name, y)).map fun p => (p.1, g p.2) := by
    cases e with
    | none => rfl
    | some x => rfl
  induction entries with
  | nil => exact hsingle
  | cons p rest ih =>
      rw [List.map_cons, setName, setName]
      by_cases hn : (p.1 == name) = true
      · rw [if_pos hn, if_pos hn, hsingle, List.map_append]
      · rw [if_neg hn, if_neg hn, ih, List.map_cons]

theorem lookup_map {β : Type} (g : α → β) (name : String) (entries : List (String × α)) :
    (entries.map fun p => (p.1, g p.2)).lookup name = (entries.lookup name).map g := by
  induction entries with
  | nil => rfl
  | cons p rest ih =>
      rw [List.map_cons, List.lookup_cons, List.lookup_cons, ih]
      cases name == p.1 with
      | false => rfl
      | true => rfl

/-! ## The tree -/

theorem descend_cons (m : String) (path : List String) (entries : List (String × Entry)) :
    (Entry.folder entries).descend (m :: path) = (entries.lookup m).bind (descend path) := by
  rw [descend, child?]
  cases entries.lookup m with
  | none => rfl
  | some c => rfl

theorem folder_of_descend_cons (m : String) (path : List String) (root e : Entry)
    (h : root.descend (m :: path) = some e) :
    ∃ entries c, root = .folder entries ∧ entries.lookup m = some c ∧ c.descend path = some e := by
  cases root with
  | file content => exact nomatch h
  | link target => exact nomatch h
  | folder entries =>
      rw [descend_cons, Option.bind_eq_some_iff] at h
      rcases h with ⟨c, hc, hpath⟩
      exact ⟨entries, c, rfl, hc, hpath⟩

theorem descend_append (path rest : List String) :
    ∀ root : Entry, root.descend (path ++ rest) = (root.descend path).bind (descend rest) := by
  induction path with
  | nil => exact fun _ => rfl
  | cons m path ih =>
      intro root
      cases root with
      | file content => rfl
      | link target => rfl
      | folder entries =>
          rw [List.cons_append, descend_cons, descend_cons, Option.bind_assoc]
          exact congrArg _ (funext ih)

theorem update_cons (e : Option Entry) (m n : String) (path : List String)
    (entries : List (String × Entry)) (c : Entry) (h : entries.lookup m = some c) :
    (Entry.folder entries).update e (m :: (path ++ [n])) =
      .folder (setName m (some (c.update e (path ++ [n]))) entries) := by
  cases path with
  | nil =>
      rw [List.nil_append, update, h]
      exact List.cons_ne_nil n []
  | cons x path =>
      rw [List.cons_append, update, h]
      exact List.cons_ne_nil x _

/-- The changed folder has its new entries. -/
theorem descend_update_self (e : Option Entry) (n : String) (path : List String) :
    ∀ (root : Entry) (entries : List (String × Entry)),
      root.descend path = some (.folder entries) →
      (root.update e (path ++ [n])).descend path = some (.folder (setName n e entries)) := by
  induction path with
  | nil =>
      intro root entries h
      rw [descend, Option.some.injEq] at h
      rw [h]
      rfl
  | cons m path ih =>
      intro root entries h
      rcases folder_of_descend_cons m path root _ h with ⟨above, c, hroot, hc, hpath⟩
      -- The way down to the change passes the entry that was put back for `m`.
      rw [hroot, List.cons_append, update_cons e m n path above c hc, descend_cons,
        lookup_setName_self]
      exact ih c entries hpath

/-- An entry that ways lead through: a folder or a link. -/
def IsWay : Entry → Prop
  | .file _ => False
  | _ => True

/-- What stands at a place is the same, except for the entries of a folder. -/
def Alike : Option Entry → Option Entry → Prop
  | some (.folder _), some (.folder _) => True
  | x, y => x = y

theorem alike_refl (x : Option Entry) : Alike x x := by
  match x with
  | none => exact rfl
  | some (.file content) => exact rfl
  | some (.folder entries) => exact trivial
  | some (.link target) => exact rfl

theorem Alike.symm {x y : Option Entry} (h : Alike x y) : Alike y x := by
  unfold Alike at h
  split at h
  · exact trivial
  · rw [h]
    exact alike_refl y

theorem Alike.trans {x y z : Option Entry} (h : Alike x y) (h' : Alike y z) : Alike x z := by
  unfold Alike at h
  split at h
  · unfold Alike at h'
    split at h'
    · exact trivial
    · rw [← h']
      exact trivial
  · rw [h]
    exact h'

theorem Alike.folder {entries : List (String × Entry)} {y : Option Entry}
    (h : Alike (some (.folder entries)) y) : ∃ entries', y = some (.folder entries') := by
  unfold Alike at h
  split at h
  · exact ⟨_, rfl⟩
  · exact ⟨entries, h.symm⟩

/-- What is no folder is the same altogether. -/
theorem Alike.eq {x y : Option Entry} (h : Alike x y)
    (hx : ∀ entries, x ≠ some (.folder entries)) : y = x := by
  unfold Alike at h
  split at h
  · exact absurd rfl (hx _)
  · exact h.symm

/-- What stands neither under the name that is changed nor below it stays. -/
theorem descend_update_alike (e : Option Entry) (n : String) (path : List String) :
    ∀ (root : Entry) (entries : List (String × Entry)),
      root.descend path = some (.folder entries) →
      ∀ other : List String, ¬ path ++ [n] <+: other →
        Alike (root.descend other) ((root.update e (path ++ [n])).descend other) := by
  induction path with
  | nil =>
      intro root entries h other hother
      rw [descend, Option.some.injEq] at h
      subst h
      cases other with
      | nil => exact trivial
      | cons m other =>
          have hne : m ≠ n := fun heq => hother (heq ▸ List.prefix_append [n] other)
          rw [List.nil_append, update, descend_cons, descend_cons, lookup_setName_ne n m hne]
          exact alike_refl _
  | cons k path ih =>
      intro root entries h other hother
      rcases folder_of_descend_cons k path root _ h with ⟨above, c, hroot, hc, hpath⟩
      subst hroot
      rw [List.cons_append, update_cons e k n path above c hc]
      cases other with
      | nil => exact trivial
      | cons m other =>
          rw [descend_cons, descend_cons]
          -- Below `k` the change is one of the subtree; beside it nothing is changed.
          by_cases hm : m = k
          · subst hm
            rw [hc, lookup_setName_self]
            exact ih c entries hpath other fun hprefix =>
              hother (List.cons_prefix_cons.mpr ⟨rfl, hprefix⟩)
          · rw [lookup_setName_ne k m hm]
            exact alike_refl _

end Entry

end CodeAudit
