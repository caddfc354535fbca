import CodeAudit.Proofs.Disk.Folder
import CodeAudit.Proofs.Disk.Trails
import CodeAudit.Proofs.Operation

/-!
# Changes of a Disk

What operations on files leave as it was.

An operation that writes, moves or removes files changes a disk at some places, and at these places
there are files or nothing, before and after. `Rewrites` says this of two disks. It goes both ways
and can be put together, and it is all that is needed to tell what paths lead to: a path leads to
the same place on both disks, and what stands there is the same unless the place is one of those.

Making folders is different, because what was missing becomes a way. `Grows` says that what was
there is still there. It goes one way only: a link may lead nowhere before and somewhere after.

Every operation starts from the place a path leads to. `IsEnd` says what that can be: a folder, or
a name in a folder. So every change is one of `setAt` under a name of a folder.

## Main definitions

* `Disk.IsEnd`: Where a way can end.
* `Disk.Rewrites`: Two disks that differ in files at some places.
* `Disk.Relocates`: Two disks that differ in where something stands.
* `Disk.Grows`: What is on one disk is on another.

## Theorems

* `Disk.isEnd_of_locate`: A path leads to a folder or to a name in a folder.
* `Disk.Rewrites.locate`: A path leads to the same place.
* `Disk.rewrites_writeFile`, `Disk.exists_of_moveOver`: Files are written and moved.
* `Disk.grows_buildFolders`: Folders are made.
* `Disk.Proper.setAt`: A changed disk is proper.
* `Disk.locate_joinAll`: A path with joined names leads to where the names lead.
-/

namespace CodeAudit

namespace Disk

/-! ## The end of a way -/

/-- What the steps of paths are made of. -/
def IsStep (n : String) : Prop :=
  n.toList ≠ [] ∧ '/' ∉ n.toList

theorem isStep_of_mem_stepsOf (path n : String) (h : n ∈ stepsOf path) : IsStep n := by
  -- The pieces between slashes that are kept are neither empty nor hold a slash.
  have hnames : ∀ m ∈ ((Path.pieces path.toList).filter
      fun n => !n.isEmpty && n != Path.here).map String.ofList, IsStep m := by
    intro m hm
    rcases List.mem_map.mp hm with ⟨p, hp, heq⟩
    rw [List.mem_filter, Bool.and_eq_true, Bool.not_eq_true', List.isEmpty_eq_false_iff] at hp
    rw [IsStep, ← heq, String.toList_ofList]
    exact ⟨hp.2.1, Path.noSlash_of_mem_pieces path.toList p hp.1⟩
  rw [stepsOf] at h
  split at h
  · rw [List.mem_append, List.mem_singleton] at h
    rcases h with h | h
    · exact hnames n h
    · rw [h, IsStep]
      decide
  · exact hnames n h

/-- A path that is not empty has steps. -/
theorem stepsOf_ne_nil (path : String) (h : path ≠ "") : stepsOf path ≠ [] := by
  have hempty : path.isEmpty = false := by
    rw [← Bool.not_eq_true, String.isEmpty_iff]
    exact h
  rw [stepsOf]
  split
  · exact List.concat_ne_nil _ _
  · rename_i hkept
    -- The last piece is a name, or else a step would have been added.
    cases hlast : (Path.pieces path.toList).getLast? with
    | none => exact absurd (List.getLast?_eq_none_iff.mp hlast) (Path.piecesFrom_ne_nil _ [])
    | some n =>
        rw [hlast, hempty, Bool.not_false, Bool.and_true, Bool.or_eq_true, beq_iff_eq, beq_iff_eq,
          not_or, Option.some.injEq, Option.some.injEq] at hkept
        refine List.ne_nil_of_mem (List.mem_map_of_mem (List.mem_filter.mpr
          ⟨List.mem_of_getLast? hlast, ?_⟩))
        rw [Bool.and_eq_true, Bool.not_eq_true', List.isEmpty_eq_false_iff, bne_iff_ne]
        exact hkept

/-- What stands at a place stands under a name of a folder. -/
theorem folder_of_at?_cons (d : Disk) (n : String) (place : Place) (x : Entry)
    (h : d.at? (n :: place) = some x) :
    ∃ entries, d.at? place = some (.folder entries) ∧ entries.lookup n = some x := by
  rw [at?, List.reverse_cons, Entry.descend_append, Option.bind_eq_some_iff] at h
  rcases h with ⟨above, habove, hx⟩
  rcases Entry.folder_of_descend_cons n [] above x hx with ⟨entries, c, hfolder, hc, hself⟩
  rw [Entry.descend, Option.some.injEq] at hself
  exact ⟨entries, by rw [at?, habove, hfolder], by rw [hc, hself]⟩

/-- Above a folder is a folder. -/
theorem folder_tail (d : Disk) (place : Place) (entries : List (String × Entry))
    (h : d.at? place = some (.folder entries)) :
    ∃ above, d.at? place.tail = some (.folder above) := by
  cases place with
  | nil => exact ⟨entries, h⟩
  | cons n place =>
      rcases folder_of_at?_cons d n place _ h with ⟨above, habove, _⟩
      exact ⟨above, habove⟩

/-- Where a way can end: at a folder, or at a name in a folder, and then no link stands there that
    is followed. -/
def IsEnd (d : Disk) (followLast : Bool) (place : Place) : Prop :=
  (∃ entries, d.at? place = some (.folder entries)) ∨
    ∃ n above entries, place = n :: above ∧ Path.IsName n.toList ∧
      d.at? above = some (.folder entries) ∧
        (followLast = true → ∀ t, d.at? place ≠ some (.link t))

theorem IsEnd.not_link {d : Disk} {place : Place} (h : d.IsEnd true place) (t : String) :
    d.at? place ≠ some (.link t) := by
  rcases h with ⟨entries, hat⟩ | ⟨_, _, _, _, _, _, hlink⟩
  · rw [hat]
    exact fun heq => nomatch heq
  · exact hlink rfl t

/-- A way that does not end at a folder ends at a name in one. -/
theorem IsEnd.name {d : Disk} {followLast : Bool} {place : Place} (h : d.IsEnd followLast place)
    (hplace : ∀ entries, d.at? place ≠ some (.folder entries)) :
    ∃ n above entries, place = n :: above ∧ Path.IsName n.toList ∧
      d.at? above = some (.folder entries) := by
  rcases h with ⟨entries, hat⟩ | ⟨n, above, entries, heq, hn, hat, _⟩
  · exact absurd hat (hplace entries)
  · exact ⟨n, above, entries, heq, hn, hat⟩

theorem isEnd_of_leads (d : Disk) (followLast : Bool) (links : Nat) (place target : Place)
    (steps : List String) (h : d.Leads followLast links place steps target)
    (hsteps : ∀ n ∈ steps, IsStep n) (hstart : steps = [] → d.IsEnd followLast place) :
    d.IsEnd followLast target := by
  -- A step that is no detour and no link ends at a name in the folder that it was made from.
  have hname : ∀ (place : Place) (n : String) (entries : List (String × Entry)),
      d.at? place = some (.folder entries) → IsStep n → n ≠ "." ∧ n ≠ ".." →
        (followLast = true → ∀ t, d.at? (n :: place) ≠ some (.link t)) →
          d.IsEnd followLast (n :: place) := by
    intro place n entries hat hstep hn hlink
    refine Or.inr ⟨n, place, entries, rfl, ⟨hstep.1, hstep.2, ?_, ?_⟩, hat, hlink⟩
    · exact fun heq => hn.1 (String.toList_inj.mp heq)
    · exact fun heq => hn.2 (String.toList_inj.mp heq)
  -- With no step left the way ends where it has come to, which each step has to account for.
  induction h with
  | done links place => exact hstart rfl
  | stay entries hat hn _ ih =>
      rw [List.forall_mem_cons] at hsteps
      exact ih hsteps.2 fun _ => Or.inl ⟨entries, hat⟩
  | up entries hat hn _ ih =>
      rw [List.forall_mem_cons] at hsteps
      exact ih hsteps.2 fun _ => Or.inl (folder_tail d _ entries hat)
  | missing entries hat hn hnone =>
      rw [List.forall_mem_cons] at hsteps
      exact hname _ _ entries hat hsteps.1 hn fun _ t => by simp [hnone]
  | keep entries hat hn t hlink hkept =>
      rw [List.forall_mem_cons] at hsteps
      exact hname _ _ entries hat hsteps.1 hn fun hfollow => by simp [hkept] at hfollow
  | follow entries hat hn t hlink ht hfollow _ ih =>
      rw [List.forall_mem_cons] at hsteps
      -- The link leads on by steps of its own, so that the way cannot end at the link.
      refine ih (fun m hm => ?_) fun hnil => ?_
      · rcases List.mem_append.mp hm with hm | hm
        · exact isStep_of_mem_stepsOf t m hm
        · exact hsteps.2 m hm
      · exact absurd (List.append_eq_nil_iff.mp hnil).1 (stepsOf_ne_nil t ht)
  | on entries hat hn e he hlink _ ih =>
      rw [List.forall_mem_cons] at hsteps
      refine ih hsteps.2 fun _ => hname _ _ entries hat hsteps.1 hn fun _ t => ?_
      rw [he]
      exact fun heq => hlink t (Option.some.inj heq)

/-- A path leads to a folder or to a name in a folder. -/
theorem isEnd_of_locate (d : Disk) (followLast : Bool) (path : String) (place : Place)
    (h : d.locate followLast path = .ok place) : d.IsEnd followLast place := by
  have hpath := ne_empty_of_locate d followLast path place h
  rw [locate_iff_leads d followLast path hpath] at h
  exact isEnd_of_leads d followLast linkLimit _ place _ h (isStep_of_mem_stepsOf path)
    fun hnil => absurd hnil (stepsOf_ne_nil path hpath)

/-! ## Files that are rewritten -/

/-- No way leads through a place: there is a file, or nothing. -/
def NoWay (d : Disk) (place : Place) : Prop :=
  ∀ x, d.at? place = some x → ¬ x.IsWay

theorem noWay_of_file (d : Disk) (place : Place) (content : List UInt8)
    (h : d.at? place = some (.file content)) : d.NoWay place := by
  intro x hx
  rw [h, Option.some.injEq] at hx
  rw [← hx]
  exact id

theorem noWay_of_none (d : Disk) (place : Place) (h : d.at? place = none) : d.NoWay place := by
  intro x hx
  rw [h] at hx
  exact nomatch hx

theorem noWay_of_not (d : Disk) (place : Place)
    (hfolder : ∀ entries, d.at? place ≠ some (.folder entries))
    (hlink : ∀ t, d.at? place ≠ some (.link t)) : d.NoWay place := by
  intro x hx
  cases x with
  | file content => exact id
  | folder entries => exact absurd hx (hfolder entries)
  | link t => exact absurd hx (hlink t)

/-- Two disks differ in files at some places, and in nothing else. -/
structure Rewrites (places : List Place) (d d' : Disk) : Prop where
  cwd : d'.cwd = d.cwd
  alike : ∀ place, place ∉ places → Entry.Alike (d.at? place) (d'.at? place)
  before : ∀ place ∈ places, d.NoWay place
  after : ∀ place ∈ places, d'.NoWay place

namespace Rewrites

variable {places : List Place} {d d' : Disk}

theorem symm (h : Rewrites places d d') : Rewrites places d' d :=
  ⟨h.cwd.symm, fun place hplace => (h.alike place hplace).symm, h.after, h.before⟩

theorem noWay (h : Rewrites places d d') (place : Place) (hplace : d.NoWay place) :
    d'.NoWay place := by
  -- Where the disks differ there is no way afterwards, and elsewhere they are alike.
  by_cases hmem : place ∈ places
  · exact h.after place hmem
  · have hfolder : ∀ entries, d.at? place ≠ some (.folder entries) :=
      fun entries heq => hplace _ heq trivial
    intro x hx
    rw [(h.alike place hmem).eq hfolder] at hx
    exact hplace x hx

theorem trans {places' : List Place} {d'' : Disk} (h : Rewrites places d d')
    (h' : Rewrites places' d' d'') : Rewrites (places ++ places') d d'' := by
  refine ⟨h'.cwd.trans h.cwd, fun place hplace => ?_, fun place hplace => ?_,
    fun place hplace => ?_⟩
  · rw [List.mem_append, not_or] at hplace
    exact (h.alike place hplace.1).trans (h'.alike place hplace.2)
  · rcases List.mem_append.mp hplace with hplace | hplace
    · exact h.before place hplace
    -- What is no way after the first change was none before it.
    · exact h.symm.noWay place (h'.before place hplace)
  · rcases List.mem_append.mp hplace with hplace | hplace
    · exact h'.noWay place (h.after place hplace)
    · exact h'.after place hplace

theorem congr {places' : List Place} (h : Rewrites places d d')
    (hmem : ∀ place, place ∈ places ↔ place ∈ places') : Rewrites places' d d' :=
  ⟨h.cwd, fun place hplace => h.alike place fun hold => hplace ((hmem place).mp hold),
    fun place hplace => h.before place ((hmem place).mpr hplace),
    fun place hplace => h.after place ((hmem place).mpr hplace)⟩

theorem sameWays (h : Rewrites places d d') : SameWays d d' := by
  refine ⟨h.cwd, fun place x hx hway => ?_⟩
  rw [← hx]
  exact h.alike place fun hmem => h.before place hmem x hx hway

/-- A path leads to the same place on both disks. -/
theorem locate (h : Rewrites places d d') (followLast : Bool) (path : String) (place : Place)
    (hplace : d.locate followLast path = .ok place) : d'.locate followLast path = .ok place := by
  refine locate_of_sameWays d d' h.sameWays followLast path place hplace fun hfollow t ht => ?_
  subst hfollow
  -- A link at the end of a way that follows links would have been followed.
  have hnot := (isEnd_of_locate d true path place hplace).not_link t
  by_cases hmem : place ∈ places
  · exact h.after place hmem _ ht trivial
  · have halike := (h.alike place hmem).symm
    rw [ht] at halike
    exact hnot (halike.eq fun _ heq => nomatch heq)

/-- A file at none of the places stays. -/
theorem file (h : Rewrites places d d') (place : Place) (hplace : place ∉ places)
    (content : List UInt8) (hat : d.at? place = some (.file content)) :
    d'.at? place = some (.file content) := by
  have halike := h.alike place hplace
  rw [hat] at halike
  exact halike.eq fun _ heq => nomatch heq

/-- A file at another place is on both disks. -/
theorem lookup_file (h : Rewrites places d d') (path : String) (content : List UInt8)
    (hfile : d.lookup path = .ok (.file content))
    (hplace : ∀ place, d.locate true path = .ok place → place ∉ places) :
    d'.lookup path = .ok (.file content) := by
  rcases locate_of_lookup d path _ hfile with ⟨place, hlocate, hat⟩
  rw [lookup_of_locate d' path place (h.locate true path place hlocate),
    h.file place (hplace place hlocate) content hat]

end Rewrites

/-! ## Names that are set -/

theorem at?_setAt_name (d : Disk) (n : String) (place : Place) (entries : List (String × Entry))
    (hat : d.at? place = some (.folder entries)) (e : Option Entry) :
    (d.setAt (n :: place) e).at? (n :: place) = (Entry.setName n e entries).lookup n :=
  at?_cons _ place _ (at?_setAt d place entries hat n e) n

theorem at?_removed {d : Disk} (hd : d.Proper) (n : String) (place : Place)
    (entries : List (String × Entry)) (hat : d.at? place = some (.folder entries)) :
    (d.setAt (n :: place) none).at? (n :: place) = none := by
  rw [at?_setAt_name d n place entries hat]
  have hproper := hd.descend place.reverse _ hat
  cases hproper with
  | folder _ hnodup _ _ => exact Entry.lookup_setName_none n entries hnodup

/-- Setting or removing a name changes nothing at other places, if no folder comes or goes. -/
theorem alike_setAt_of_ne (d : Disk) (n : String) (place : Place)
    (entries : List (String × Entry)) (hat : d.at? place = some (.folder entries))
    (e : Option Entry) (hbefore : ∀ inside, d.at? (n :: place) ≠ some (.folder inside))
    (hafter : ∀ inside, (d.setAt (n :: place) e).at? (n :: place) ≠ some (.folder inside))
    (other : Place) (hother : other ≠ n :: place) :
    Entry.Alike (d.at? other) ((d.setAt (n :: place) e).at? other) := by
  -- Below the name nothing stands before the change or behind it, as there is no folder at it.
  by_cases hbelow : n :: place <:+ other
  · rw [at?_below_of_ne d (n :: place) hbefore other hbelow hother,
      at?_below_of_ne _ (n :: place) hafter other hbelow hother]
    exact Entry.alike_refl none
  · exact alike_setAt d place entries hat n e other hbelow

/-- A file is set where no way leads. -/
theorem rewrites_setAt (d : Disk) (n : String) (place : Place) (entries : List (String × Entry))
    (hat : d.at? place = some (.folder entries)) (e : Option Entry)
    (hbefore : d.NoWay (n :: place)) (hafter : (d.setAt (n :: place) e).NoWay (n :: place)) :
    Rewrites [n :: place] d (d.setAt (n :: place) e) := by
  refine ⟨rfl, fun other hother => ?_, List.forall_mem_singleton.mpr hbefore,
    List.forall_mem_singleton.mpr hafter⟩
  rw [List.mem_singleton] at hother
  exact alike_setAt_of_ne d n place entries hat e (fun _ heq => hbefore _ heq trivial)
    (fun _ heq => hafter _ heq trivial) other hother

end Disk

namespace Entry

theorem mem_setName {α : Type} (name : String) (e : Option α) (entries : List (String × α))
    (p : String × α) (h : p ∈ setName name e entries) :
    p ∈ entries ∨ (p.1 = name ∧ e = some p.2) := by
  have hnew : p ∈ e.toList.map (fun x => (name, x)) → p.1 = name ∧ e = some p.2 := by
    intro hp
    rcases List.mem_map.mp hp with ⟨x, hx, heq⟩
    rw [← heq]
    exact ⟨rfl, Option.mem_toList.mp hx⟩
  induction entries with
  | nil => exact Or.inr (hnew h)
  | cons q rest ih =>
      rw [setName] at h
      by_cases hq : (q.1 == name) = true
      · rw [if_pos hq, List.mem_append] at h
        exact h.elim (fun h => Or.inr (hnew h)) fun h => Or.inl (List.mem_cons_of_mem q h)
      · rw [if_neg hq, List.mem_cons] at h
        rcases h with h | h
        · exact Or.inl (List.mem_cons.mpr (Or.inl h))
        · exact (ih h).imp_left (List.mem_cons_of_mem q)

theorem Proper.setName {entries : List (String × Entry)} (h : (Entry.folder entries).Proper)
    (n : String) (hn : Path.IsName n.toList) (e : Option Entry)
    (he : ∀ x, e = some x → x.Proper) : (Entry.folder (setName n e entries)).Proper := by
  cases h with
  | folder _ hnodup hnames hentries =>
      refine .folder _ (nodup_setName n e entries hnodup) (fun p hp => ?_) fun p hp => ?_
      · rcases mem_setName n e entries p hp with hp | ⟨heq, _⟩
        · exact hnames p hp
        · rw [heq]
          exact hn
      · rcases mem_setName n e entries p hp with hp | ⟨_, heq⟩
        · exact hentries p hp
        · exact he p.2 heq

/-- A proper tree with a name set to something proper is proper. -/
theorem Proper.update (e : Option Entry) (he : ∀ x, e = some x → x.Proper) (n : String)
    (hn : Path.IsName n.toList) (path : List String) :
    ∀ (root : Entry) (entries : List (String × Entry)), root.Proper →
      root.descend path = some (.folder entries) → (root.update e (path ++ [n])).Proper := by
  induction path with
  | nil =>
      intro root entries hroot hpath
      rw [Entry.descend, Option.some.injEq] at hpath
      subst hpath
      exact hroot.setName n hn e he
  | cons k path ih =>
      intro root entries hroot hpath
      rcases folder_of_descend_cons k path root _ hpath with ⟨above, c, heq, hc, hrest⟩
      subst heq
      have hk : Path.IsName k.toList ∧ c.Proper := by
        cases hroot with
        | folder _ hnodup hnames hentries =>
            have hmem := (lookup_eq_some_iff_mem above hnodup k c).mp hc
            exact ⟨hnames (k, c) hmem, hentries (k, c) hmem⟩
      rw [List.cons_append, update_cons e k n path above c hc]
      refine hroot.setName k hk.1 _ fun x hx => ?_
      rw [← Option.some.inj hx]
      exact ih c entries hk.2 hrest

end Entry

namespace Disk

/-- A disk with a name set to something proper is proper. -/
theorem Proper.setAt {d : Disk} (h : d.Proper) (n : String) (hn : Path.IsName n.toList)
    (place : Place) (entries : List (String × Entry))
    (hat : d.at? place = some (.folder entries)) (e : Option Entry)
    (he : ∀ x, e = some x → x.Proper) : (d.setAt (n :: place) e).Proper := by
  rw [Proper, Disk.setAt, List.reverse_cons]
  exact Entry.Proper.update e he n hn place.reverse d.root entries h hat

theorem Proper.lookup {d : Disk} (hd : d.Proper) (path : String) (e : Entry)
    (h : d.lookup path = .ok e) : e.Proper := by
  rcases d.locate_of_lookup path e h with ⟨place, _, hat⟩
  exact hd.descend place.reverse e hat

/-- The names in a folder of a proper disk are different, and come in their order. -/
theorem Proper.names {d : Disk} (hd : d.Proper) (folder : String) (listed : List String)
    (h : d.names folder = .ok listed) :
    (listed.Pairwise fun a b => a ≤ b ∧ a ≠ b) ∧ ∀ n ∈ listed, Path.IsName n.toList := by
  rcases d.folder_of_names folder listed h with ⟨entries, hlookup⟩
  simp only [Disk.names, hlookup, Except.ok.injEq] at h
  cases hd.lookup folder _ hlookup with
  | folder _ hnodup hnames _ =>
      have hperm : (sortTexts (entries.map Prod.fst)).Perm (entries.map Prod.fst) :=
        perm_sortBy _ _
      rw [← h]
      refine ⟨(pairwise_sortTexts _).imp₂ (fun {a b} hle hne => ⟨hle, hne⟩)
        (hperm.nodup_iff.mpr hnodup), fun n hn => ?_⟩
      rcases List.mem_map.mp (hperm.mem_iff.mp hn) with ⟨p, hp, heq⟩
      exact heq ▸ hnames p hp

/-! ## Operations on files -/

/-- A file that is written is at the place its path leads to. -/
theorem rewrites_writeFile (d d' : Disk) (path : String) (content : List UInt8)
    (h : d.writeFile path content = .ok d') :
    ∃ place, d.locate true path = .ok place ∧ Rewrites [place] d d' ∧
      d'.at? place = some (.file content) ∧ (d.Proper → d'.Proper) := by
  rw [writeFile] at h
  cases hplace : d.locate true path with
  | error e =>
      rw [hplace] at h
      cases h
  | ok place =>
      simp only [hplace, bind, Except.bind] at h
      have hend := isEnd_of_locate d true path place hplace
      have hfolder : ∀ entries, d.at? place ≠ some (.folder entries) := by
        intro entries heq
        rw [heq] at h
        cases h
      -- A folder cannot be written, so the content was set.
      have heq : d.setAt place (some (.file content)) = d' := by
        split at h
        · rename_i hat
          exact absurd hat (hfolder _)
        · exact Except.ok.inj h
      rcases hend.name hfolder with ⟨n, above, entries, hcons, hn, hat⟩
      subst hcons heq
      have hfile : (d.setAt (n :: above) (some (.file content))).at? (n :: above) =
          some (.file content) := by
        rw [at?_setAt_name d n above entries hat, Entry.lookup_setName_self]
      refine ⟨n :: above, rfl, ?_, hfile, fun hd => ?_⟩
      · exact rewrites_setAt d n above entries hat _ (noWay_of_not d _ hfolder hend.not_link)
          (noWay_of_file _ _ content hfile)
      · refine hd.setAt n hn above entries hat _ fun x hx => ?_
        rw [← Option.some.inj hx]
        exact .file content

/-- An entry was taken from one place and put at another, and all else is as it was. -/
structure Relocates (a b : Place) (e : Entry) (d d' : Disk) : Prop where
  cwd : d'.cwd = d.cwd
  put : d'.at? b = some e
  taken : a ≠ b → d'.at? a = none
  alike : ∀ place, place ≠ a → place ≠ b → Entry.Alike (d.at? place) (d'.at? place)
  proper : d'.Proper

/-- A file that is put where no way leads is rewritten. -/
theorem Relocates.rewrites {a b : Place} {content : List UInt8} {d d' : Disk}
    (h : Relocates a b (.file content) d d') (ha : d.NoWay a) (hb : d.NoWay b) :
    Rewrites [a, b] d d' := by
  have hput := noWay_of_file d' b content h.put
  have htaken : d'.NoWay a := by
    -- The file may be put where it was taken from.
    by_cases hne : a = b
    · rw [hne]
      exact hput
    · exact noWay_of_none d' a (h.taken hne)
  refine ⟨h.cwd, fun place hplace => ?_, ?_, ?_⟩
  · rw [List.mem_pair, not_or] at hplace
    exact h.alike place hplace.1 hplace.2
  · simp [ha, hb]
  · simp [htaken, hput]

/-- What is no folder can be put where no folder is. -/
theorem relocates_setAt {d : Disk} (hd : d.Proper) (a b : Place) (e : Entry)
    (ha : d.IsEnd false a) (hat : d.at? a = some e) (he : ∀ entries, e ≠ .folder entries)
    (hb : d.IsEnd false b) (hfolder : ∀ entries, d.at? b ≠ some (.folder entries)) :
    Relocates a b e d ((d.setAt a none).setAt b (some e)) := by
  have hane : ∀ entries, d.at? a ≠ some (.folder entries) := by
    simp [hat, he]
  rcases ha.name hane with ⟨m, above, entries, rfl, hm, habove⟩
  rcases hb.name hfolder with ⟨n, below, inside, rfl, hn, hbelow⟩
  -- The entry is taken away first. The folder it is put into is still there, and has no folder
  -- under the name.
  have hnone := at?_removed hd m above entries habove
  have hremoved := alike_setAt_of_ne d m above entries habove none hane (by simp [hnone])
  have hbelow' : ∃ inside', (d.setAt (m :: above) none).at? below = some (.folder inside') := by
    have halike := hremoved below fun heq => hane inside (heq ▸ hbelow)
    rw [hbelow] at halike
    exact halike.folder
  rcases hbelow' with ⟨inside', hbelow'⟩
  have hfolder' : ∀ entries,
      (d.setAt (m :: above) none).at? (n :: below) ≠ some (.folder entries) := by
    by_cases heq : n :: below = m :: above
    · simp [heq, hnone]
    · rw [(hremoved _ heq).eq hfolder]
      exact hfolder
  have hput : ((d.setAt (m :: above) none).setAt (n :: below) (some e)).at? (n :: below) =
      some e := by
    rw [at?_setAt_name _ n below inside' hbelow', Entry.lookup_setName_self]
  have hset := alike_setAt_of_ne _ n below inside' hbelow' (some e) hfolder' (by simp [hput, he])
  refine ⟨rfl, hput, fun hne => ?_, fun place hna hnb => ?_, ?_⟩
  · have halike := hset (m :: above) hne
    rw [hnone] at halike
    exact halike.eq fun _ heq => by cases heq
  · exact (hremoved place hna).trans (hset place hnb)
  · have hproper := hd.setAt m hm above entries habove none fun _ heq => by cases heq
    refine hproper.setAt n hn below inside' hbelow' _ fun x hx => ?_
    rw [← Option.some.inj hx]
    exact hd.descend (m :: above).reverse _ hat

/-- What is moved is taken from the place to which its path leads and put at the place to which its
    new path leads, where no folder is. -/
theorem exists_of_moveOver (d d' : Disk) (hd : d.Proper) (source target : String)
    (h : d.moveOver source target = .ok d') :
    ∃ a b e, d.locate false source = .ok a ∧ d.locate false target = .ok b ∧
      d.at? a = some e ∧ (∀ entries, d.at? b ≠ some (.folder entries)) ∧
        ((∀ entries, e ≠ .folder entries) → Relocates a b e d d') := by
  rw [moveOver] at h
  rcases exists_of_bind_ok _ _ _ h with ⟨a, ha, h⟩
  rcases exists_of_bind_ok _ _ _ h with ⟨b, hb, h⟩
  cases hat : d.at? a with
  | none =>
      rw [hat] at h
      cases h
  | some e =>
      rw [hat] at h
      have hfolder : ∀ entries, d.at? b ≠ some (.folder entries) := by
        intro entries heq
        rw [heq] at h
        cases h
      have heq : (d.setAt a none).setAt b (some e) = d' := by
        split at h
        · cases h
        · cases h
        · rename_i hsome _
          rw [Option.some.inj hsome]
          exact Except.ok.inj h
      refine ⟨a, b, e, ha, hb, hat, hfolder, fun he => ?_⟩
      rw [← heq]
      exact relocates_setAt hd a b e (isEnd_of_locate d false source a ha) hat he
        (isEnd_of_locate d false target b hb) hfolder

/-! ## Folders that are made -/

/-- What is on one disk is on another, where folders may have more in them. -/
structure Grows (d d' : Disk) : Prop where
  cwd : d'.cwd = d.cwd
  alike : ∀ place x, d.at? place = some x → Entry.Alike (some x) (d'.at? place)

namespace Grows

variable {d d' : Disk}

theorem refl (d : Disk) : Grows d d :=
  ⟨rfl, fun _ x hx => hx ▸ Entry.alike_refl (some x)⟩

theorem trans {d'' : Disk} (h : Grows d d') (h' : Grows d' d'') : Grows d d'' := by
  refine ⟨h'.cwd.trans h.cwd, fun place x hx => ?_⟩
  have halike := h.alike place x hx
  cases hat : d'.at? place with
  -- What was there cannot be gone from the disk in between.
  | none =>
      rw [hat] at halike
      exact absurd (halike.symm.eq fun _ heq => nomatch heq) (Option.some_ne_none x)
  | some y =>
      rw [hat] at halike
      exact halike.trans (h'.alike place y hat)

/-- A path to something leads there still. -/
theorem locate (h : Grows d d') (followLast : Bool) (path : String) (place : Place)
    (hplace : d.locate followLast path = .ok place) (hsome : d.at? place ≠ none) :
    d'.locate followLast path = .ok place := by
  have hways : SameWays d d' := ⟨h.cwd, fun other x hx _ => h.alike other x hx⟩
  refine locate_of_sameWays d d' hways followLast path place hplace fun hfollow t ht => ?_
  subst hfollow
  rcases Option.ne_none_iff_exists'.mp hsome with ⟨x, hx⟩
  have halike := (h.alike place x hx).symm
  rw [ht] at halike
  have heq := halike.eq fun _ heq => nomatch heq
  exact (isEnd_of_locate d true path place hplace).not_link t (hx.trans heq)

/-- A file is still there. -/
theorem lookup_file (h : Grows d d') (path : String) (content : List UInt8)
    (hfile : d.lookup path = .ok (.file content)) : d'.lookup path = .ok (.file content) := by
  rcases locate_of_lookup d path _ hfile with ⟨place, hlocate, hat⟩
  have hlocate' := h.locate true path place hlocate (by rw [hat]; exact Option.some_ne_none _)
  rw [lookup_of_locate d' path place hlocate', (h.alike place _ hat).eq fun _ heq => nomatch heq]

end Grows

/-- A folder is made under a name that stood for nothing. -/
theorem grows_makeFolder (d d' : Disk) (path : String) (h : d.makeFolder path = .ok d') :
    Grows d d' ∧ (d.Proper → d'.Proper) := by
  rw [makeFolder] at h
  cases hplace : d.locate false path with
  | error e =>
      rw [hplace] at h
      cases h
  | ok place =>
      simp only [hplace, bind, Except.bind] at h
      cases hnone : d.at? place with
      | some x =>
          rw [hnone] at h
          cases h
      | none =>
          rw [hnone] at h
          have hfolder : ∀ entries, d.at? place ≠ some (.folder entries) := by
            rw [hnone]
            exact fun _ heq => by cases heq
          rcases (isEnd_of_locate d false path place hplace).name hfolder with
            ⟨n, above, entries, hcons, hn, hat⟩
          subst hcons
          rw [← Except.ok.inj h]
          refine ⟨⟨rfl, fun other x hx => ?_⟩, fun hd => ?_⟩
          · rw [← hx]
            refine alike_setAt d above entries hat n _ other fun hbelow => ?_
            -- Nothing stands below a name that stands for nothing.
            by_cases heq : other = n :: above
            · rw [heq, hnone] at hx
              cases hx
            · rw [at?_below d (n :: above) (noWay_of_none d _ hnone) other hbelow heq] at hx
              cases hx
          · refine hd.setAt n hn above entries hat _ fun x hx => ?_
            rw [← Option.some.inj hx]
            exact .folder [] List.nodup_nil (fun _ hmem => absurd hmem List.not_mem_nil)
              fun _ hmem => absurd hmem List.not_mem_nil

theorem grows_finish (d : Disk) (path : String) :
    Grows d (buildFolders.finish d path).1 ∧
      (d.Proper → (buildFolders.finish d path).1.Proper) := by
  rw [buildFolders.finish]
  cases hmake : d.makeFolder path with
  | ok d' => exact grows_makeFolder d d' path hmake
  | error e =>
      dsimp only
      split
      · exact ⟨.refl d, id⟩
      · exact ⟨.refl d, id⟩

/-- Folders that are made leave what is there, whether all of them are made or not. -/
theorem grows_buildFolders (fuel : Nat) :
    ∀ (d : Disk) (path : String), Grows d (d.buildFolders fuel path).1 ∧
      (d.Proper → (d.buildFolders fuel path).1.Proper) := by
  induction fuel with
  | zero => exact fun d _ => ⟨.refl d, id⟩
  | succ fuel ih =>
      intro d path
      rw [buildFolders]
      split
      · have habove := ih d (String.ofList (Path.parent path.toList))
        have hfinish : ∀ made : Disk, Grows d made ∧ (d.Proper → made.Proper) →
            Grows d (buildFolders.finish made path).1 ∧
              (d.Proper → (buildFolders.finish made path).1.Proper) := by
          intro made hmade
          have hlast := grows_finish made path
          exact ⟨hmade.1.trans hlast.1, fun hd => hlast.2 (hmade.2 hd)⟩
        split
        · rename_i made heq
          rw [heq] at habove
          exact hfinish made habove
        · rename_i made heq
          rw [heq] at habove
          exact hfinish made habove
        · rename_i made e _ heq
          rw [heq] at habove
          exact habove
      · exact grows_finish d path

/-! ## Trails in a disk -/

theorem at?_append (d : Disk) (ns : List String) (place : Place) :
    d.at? (ns.reverse ++ place) = (d.at? place).bind (Entry.descend ns) := by
  rw [at?, at?, List.reverse_append, List.reverse_reverse, Entry.descend_append]

/-- Joined to the path of a folder, the names that lead down from it lead to the same place, if
    that is no link. -/
theorem locate_joinAll (d : Disk) (x : Entry) (hx : ∀ t, x ≠ .link t) (ns : List String) :
    ∀ path place, (∀ n ∈ ns, Path.IsName n.toList) → d.locate true path = .ok place →
      d.at? (ns.reverse ++ place) = some x →
        d.locate true (joinAll path ns) = .ok (ns.reverse ++ place) := by
  induction ns with
  | nil => exact fun path place _ hplace _ => hplace
  | cons n ns ih =>
      intro path place hns hplace hat
      rw [List.forall_mem_cons] at hns
      rw [List.reverse_cons, List.append_assoc, List.singleton_append] at hat ⊢
      have hfirst := hat
      rw [at?_append, Option.bind_eq_some_iff] at hfirst
      rcases hfirst with ⟨y, hy, hrest⟩
      -- No names lead on from a link, so the first one is none either.
      have hlink : ∀ t, y ≠ .link t := by
        rintro t rfl
        cases ns with
        | nil => exact hx t (Option.some.inj hrest).symm
        | cons m ns => exact nomatch hrest
      rcases folder_of_at?_cons d n place y hy with ⟨entries, hfolder, hlookup⟩
      refine ih (join path n) (n :: place) hns.2 ?_ hat
      refine locate_join d true path place entries hplace hfolder n hns.1 fun _ t heq => ?_
      rw [hlookup] at heq
      exact hlink t (Option.some.inj heq)

/-- The trails of what stands at a place are the ways down from there to what is no folder. -/
theorem mem_trails_iff (d : Disk) (place : Place) (e : Entry) (he : e.Proper)
    (hat : d.at? place = some e) (ns : List String) :
    ns ∈ e.trails ↔
      ns ≠ [] ∧ ∃ x, d.at? (ns.reverse ++ place) = some x ∧ x.isFolder = false := by
  rw [Entry.mem_trails he, at?_append, hat, Option.bind_some]

end Disk

end CodeAudit
