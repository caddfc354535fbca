import CodeAudit.Proofs.Disk.Paths
import CodeAudit.Proofs.Disk.Tree
import CodeAudit.Proofs.Sorting
import CodeAudit.Selection

/-!
# Trails

What the walk through the folder of a project finds, in terms of the tree alone.

The walk gives paths, which are texts, and it asks the disk about each of them. Underneath is a
list that needs neither: the names that lead from a folder down to everything in it that is not a
folder. `trails` is that list in the order of the walk, and `files_eq` takes the walk apart into
it: the trails are joined to the path of the folder, and what is no file is left out.

In a proper tree, where the entries of a folder have different names, the trails are known by
their members and by their order. The members are the ways down to what is not a folder, and
`Before` is the order: the files of a folder come before what is in its folders, and names come
in their own order. Nothing comes before itself, so no trail comes twice.

## Main definitions

* `Entry.Proper`: A tree with names that paths can have, and no name twice in one folder.
* `Entry.trails`: The ways down to what is not a folder.
* `Entry.Before`: The order of the walk.
* `Disk.Proper`: A disk with a proper tree.
* `Disk.joinAll`: The path of names in a folder, one in the other.

## Theorems

* `Entry.mem_trails`: The members of the trails.
* `Entry.pairwise_trails`: The order of the trails.
* `Entry.filter_trails_eq_of_mem`: Trees with the same ways down have the same trails.
* `Entry.files_eq`: The walk joins the trails to the path of the folder.
-/

namespace CodeAudit

namespace Entry

/-! ## Proper trees -/

/-- A tree with names that paths can have, and no name twice in one folder. -/
inductive Proper : Entry → Prop
  | file (content : List UInt8) : Proper (.file content)
  | link (target : String) : Proper (.link target)
  | folder (entries : List (String × Entry)) (hnodup : (entries.map Prod.fst).Nodup)
      (hnames : ∀ e ∈ entries, Path.IsName e.1.toList) (hentries : ∀ e ∈ entries, Proper e.2) :
      Proper (.folder entries)

mutual

/-- A tree is proper, as a test. -/
def isProper : Entry → Bool
  | .folder entries => decide (entries.map Prod.fst).Nodup && areProper entries
  | _ => true

/-- Some entries are proper, with proper names. -/
def areProper : List (String × Entry) → Bool
  | [] => true
  | e :: rest => isProperNamed e && areProper rest

/-- An entry is proper, with a proper name. -/
def isProperNamed : String × Entry → Bool
  | (name, e) => decide (Path.IsName name.toList) && isProper e

end

theorem areProper_iff (entries : List (String × Entry)) :
    areProper entries = true ↔
      ∀ e ∈ entries, Path.IsName e.1.toList ∧ isProper e.2 = true := by
  induction entries with
  | nil => exact ⟨fun _ _ h => absurd h List.not_mem_nil, fun _ => by rw [areProper]⟩
  | cons e rest ih =>
      rcases e with ⟨name, e⟩
      rw [areProper, isProperNamed, Bool.and_eq_true, Bool.and_eq_true, decide_eq_true_iff, ih,
        List.forall_mem_cons]

mutual

theorem proper_of_isProper (e : Entry) (h : e.isProper = true) : e.Proper := by
  cases e with
  | file content => exact .file content
  | link target => exact .link target
  | folder entries =>
      rw [isProper, Bool.and_eq_true, decide_eq_true_iff] at h
      exact .folder entries h.1 (fun e he => ((areProper_iff entries).mp h.2 e he).1)
        (proper_of_areProper entries h.2)

theorem proper_of_areProper (entries : List (String × Entry)) (h : areProper entries = true) :
    ∀ e ∈ entries, e.2.Proper := by
  cases entries with
  | nil => exact fun _ he => absurd he List.not_mem_nil
  | cons e rest =>
      rw [areProper, Bool.and_eq_true] at h
      exact List.forall_mem_cons.mpr ⟨proper_of_isProperNamed e h.1, proper_of_areProper rest h.2⟩

theorem proper_of_isProperNamed (e : String × Entry) (h : isProperNamed e = true) :
    e.2.Proper := by
  cases e with
  | mk name e =>
      rw [isProperNamed, Bool.and_eq_true] at h
      exact proper_of_isProper e h.2

end

/-- In a folder with different names, an entry is found under its name. -/
theorem lookup_eq_some_iff_mem {α : Type} (entries : List (String × α))
    (h : (entries.map Prod.fst).Nodup) (n : String) (x : α) :
    entries.lookup n = some x ↔ (n, x) ∈ entries := by
  induction entries with
  | nil => exact ⟨(fun heq => nomatch heq), fun hmem => absurd hmem List.not_mem_nil⟩
  | cons p rest ih =>
      rcases p with ⟨m, y⟩
      rw [List.map_cons, List.nodup_cons] at h
      rw [List.lookup_cons, List.mem_cons]
      -- The name stands here and nowhere behind, or it is looked up in the rest.
      by_cases hn : n = m
      · subst hn
        rw [beq_self_eq_true]
        refine ⟨fun heq => Or.inl (by rw [Option.some.inj heq]), fun hmem => ?_⟩
        rcases hmem with heq | hrest
        · rw [(Prod.mk.inj heq).2]
        · exact absurd (List.mem_map_of_mem hrest) h.1
      · have hne : (n == m) = false := beq_eq_false_iff_ne.mpr hn
        rw [hne]
        refine ⟨fun heq => Or.inr ((ih h.2).mp heq), fun hmem => ?_⟩
        rcases hmem with heq | hrest
        · exact absurd (Prod.mk.inj heq).1 hn
        · exact (ih h.2).mpr hrest

/-- What stands below a proper entry is proper. -/
theorem Proper.descend {e : Entry} (h : e.Proper) :
    ∀ (path : List String) (x : Entry), e.descend path = some x → x.Proper := by
  induction h with
  | file content =>
      intro path x hx
      cases path with
      | nil => exact Option.some.inj hx ▸ .file content
      | cons n path => exact nomatch hx
  | link target =>
      intro path x hx
      cases path with
      | nil => exact Option.some.inj hx ▸ .link target
      | cons n path => exact nomatch hx
  | folder entries hnodup hnames hentries ih =>
      intro path x hx
      cases path with
      | nil => exact Option.some.inj hx ▸ .folder entries hnodup hnames hentries
      | cons n path =>
          rw [descend_cons, Option.bind_eq_some_iff] at hx
          rcases hx with ⟨c, hc, hpath⟩
          exact ih (n, c) ((lookup_eq_some_iff_mem entries hnodup n c).mp hc) path x hpath

/-! ## Trails -/

/-- An entry is a folder. -/
def isFolder : Entry → Bool
  | .folder _ => true
  | _ => false

mutual

/-- The ways down from an entry to what is not a folder, in the order of the walk. -/
def trails : Entry → List (List String)
  | .folder entries =>
    ((sortBy nameOrder entries).filter fun e => !e.2.isFolder).map (fun e => [e.1]) ++
      (sortBy nameOrder (trailsOfFolders entries)).flatMap Prod.snd
  | _ => []

/-- The ways down through each of some entries, with its name. -/
def trailsOfFolders : List (String × Entry) → List (String × List (List String))
  | [] => []
  | e :: rest => trailsOfNamed e :: trailsOfFolders rest

/-- The ways down through an entry with a name. -/
def trailsOfNamed : String × Entry → String × List (List String)
  | (name, e) => (name, (trails e).map (name :: ·))

end

theorem trailsOfFolders_eq (entries : List (String × Entry)) :
    trailsOfFolders entries = entries.map fun e => (e.1, (trails e.2).map (e.1 :: ·)) := by
  induction entries with
  | nil => rw [trailsOfFolders, List.map_nil]
  | cons e rest ih =>
      rcases e with ⟨name, e⟩
      rw [trailsOfFolders, trailsOfNamed, ih, List.map_cons]

/-- Sorting by name does not ask what stands under the names. -/
theorem sortBy_nameOrder_map {α β : Type} (g : String × α → β) (entries : List (String × α)) :
    sortBy nameOrder (entries.map fun e => (e.1, g e)) =
      (sortBy nameOrder entries).map fun e => (e.1, g e) :=
  sortBy_map nameOrder nameOrder (fun e => (e.1, g e)) (fun _ _ => rfl) entries

theorem trails_folder (entries : List (String × Entry)) :
    trails (.folder entries) =
      ((sortBy nameOrder entries).filter fun e => !e.2.isFolder).map (fun e => [e.1]) ++
        (sortBy nameOrder entries).flatMap fun e => (trails e.2).map (e.1 :: ·) := by
  rw [trails, trailsOfFolders_eq, sortBy_nameOrder_map fun e => (trails e.2).map (e.1 :: ·),
    List.flatMap_map]

theorem trails_of_not_folder (e : Entry) (h : e.isFolder = false) : trails e = [] := by
  cases e with
  | folder entries => exact nomatch h
  | file content => rw [trails]; exact fun _ heq => nomatch heq
  | link target => rw [trails]; exact fun _ heq => nomatch heq

theorem mem_trails_folder (entries : List (String × Entry)) (ns : List String) :
    ns ∈ trails (.folder entries) ↔
      (∃ n x, (n, x) ∈ entries ∧ x.isFolder = false ∧ ns = [n]) ∨
        ∃ n x ms, (n, x) ∈ entries ∧ ms ∈ trails x ∧ ns = n :: ms := by
  rw [trails_folder, List.mem_append, List.mem_map, List.mem_flatMap]
  simp only [List.mem_filter, mem_sortBy, List.mem_map, Bool.not_eq_true']
  constructor
  · rintro (⟨⟨n, x⟩, ⟨hmem, hfolder⟩, heq⟩ | ⟨⟨n, x⟩, hmem, ms, hms, heq⟩)
    · exact Or.inl ⟨n, x, hmem, hfolder, heq.symm⟩
    · exact Or.inr ⟨n, x, ms, hmem, hms, heq.symm⟩
  · rintro (⟨n, x, hmem, hfolder, heq⟩ | ⟨n, x, ms, hmem, hms, heq⟩)
    · exact Or.inl ⟨(n, x), ⟨hmem, hfolder⟩, heq.symm⟩
    · exact Or.inr ⟨(n, x), hmem, ms, hms, heq.symm⟩

/-- The trails of a proper tree are the ways down to what is not a folder. -/
theorem mem_trails {e : Entry} (h : e.Proper) :
    ∀ ns : List String, ns ∈ trails e ↔
      ns ≠ [] ∧ ∃ x, e.descend ns = some x ∧ x.isFolder = false := by
  -- A file or a link has no trails, and nothing stands below it.
  have hleaf : ∀ e : Entry, e.isFolder = false → ∀ ns : List String, ns ∈ trails e ↔
      ns ≠ [] ∧ ∃ x, e.descend ns = some x ∧ x.isFolder = false := by
    intro e he ns
    rw [trails_of_not_folder e he]
    refine ⟨fun hmem => absurd hmem List.not_mem_nil, ?_⟩
    rintro ⟨hne, x, hx, _⟩
    cases ns with
    | nil => exact absurd rfl hne
    | cons n ns =>
        cases e with
        | folder entries => exact nomatch he
        | file content => exact nomatch hx
        | link target => exact nomatch hx
  induction h with
  | file content => exact hleaf _ rfl
  | link target => exact hleaf _ rfl
  | folder entries hnodup hnames hentries ih =>
      intro ns
      rw [mem_trails_folder]
      constructor
      · rintro (⟨n, x, hmem, hfolder, heq⟩ | ⟨n, x, ms, hmem, hms, heq⟩)
        · subst heq
          refine ⟨List.cons_ne_nil n [], x, ?_, hfolder⟩
          rw [descend_cons, (lookup_eq_some_iff_mem entries hnodup n x).mpr hmem]
          rfl
        · subst heq
          rcases ((ih (n, x) hmem ms).mp hms).2 with ⟨y, hy, hfolder⟩
          refine ⟨List.cons_ne_nil n ms, y, ?_, hfolder⟩
          rw [descend_cons, (lookup_eq_some_iff_mem entries hnodup n x).mpr hmem]
          exact hy
      · rintro ⟨hne, y, hy, hfolder⟩
        cases ns with
        | nil => exact absurd rfl hne
        | cons n ms =>
            rw [descend_cons, Option.bind_eq_some_iff] at hy
            rcases hy with ⟨x, hx, hms⟩
            rw [lookup_eq_some_iff_mem entries hnodup] at hx
            -- The way ends at the entry, or goes on through it.
            cases ms with
            | nil =>
                rw [← Option.some.inj hms] at hfolder
                exact Or.inl ⟨n, x, hx, hfolder, rfl⟩
            | cons m ms =>
                exact Or.inr ⟨n, x, m :: ms, hx, (ih (n, x) hx (m :: ms)).mpr
                  ⟨List.cons_ne_nil m ms, y, hms, hfolder⟩, rfl⟩

theorem isName_of_mem_trails {e : Entry} (h : e.Proper) :
    ∀ ns ∈ trails e, ∀ n ∈ ns, Path.IsName n.toList := by
  induction h with
  | file content =>
      intro ns hns
      rw [trails_of_not_folder _ rfl] at hns
      exact absurd hns List.not_mem_nil
  | link target =>
      intro ns hns
      rw [trails_of_not_folder _ rfl] at hns
      exact absurd hns List.not_mem_nil
  | folder entries hnodup hnames hentries ih =>
      intro ns hns n hn
      rcases (mem_trails_folder entries ns).mp hns with
        ⟨m, x, hmem, _, heq⟩ | ⟨m, x, ms, hmem, hms, heq⟩
      · rw [heq, List.mem_singleton] at hn
        exact hn ▸ hnames (m, x) hmem
      · rw [heq, List.mem_cons] at hn
        rcases hn with hm | hn
        · exact hm ▸ hnames (m, x) hmem
        · exact ih (m, x) hmem ms hms n hn

/-! ## The order of the walk -/

/-- One trail comes before another: what is in a folder comes before what is in its folders, and
    otherwise the names decide. -/
def Before : List String → List String → Prop
  | [n], [m] => n ≤ m ∧ n ≠ m
  | [_], _ :: _ :: _ => True
  | n :: a :: ns, m :: b :: ms => (n ≤ m ∧ n ≠ m) ∨ (n = m ∧ Before (a :: ns) (b :: ms))
  | _, _ => False

theorem not_before_self (ns : List String) : ¬ Before ns ns := by
  induction ns with
  | nil => exact id
  | cons n ns ih =>
      cases ns with
      | nil => exact fun h => h.2 rfl
      | cons a ns =>
          rintro (⟨_, hne⟩ | ⟨_, h⟩)
          · exact hne rfl
          · exact ih h

/-- Of two trails at most one comes before the other. -/
theorem not_before_of_before (ns : List String) : ∀ ms, Before ns ms → ¬ Before ms ns := by
  induction ns with
  | nil => exact fun _ h => h.elim
  | cons n ns ih =>
      intro ms h
      cases ms with
      | nil => exact id
      | cons m ms =>
          -- A name alone comes before every longer trail. Otherwise the first names decide, and
          -- the rest where they are equal.
          cases ns with
          | nil =>
              cases ms with
              | nil => exact fun h' => h.2 (String.le_antisymm h.1 h'.1)
              | cons b ms => exact id
          | cons a ns =>
              cases ms with
              | nil => exact h.elim
              | cons b ms =>
                  rintro (⟨hle', hne'⟩ | ⟨heq', h'⟩)
                  · rcases h with ⟨hle, hne⟩ | ⟨heq, _⟩
                    · exact hne (String.le_antisymm hle hle')
                    · exact hne' heq.symm
                  · rcases h with ⟨_, hne⟩ | ⟨_, h⟩
                    · exact hne heq'.symm
                    · exact ih (b :: ms) h h'

theorem before_cons (n : String) (ns ms : List String) (h : Before ns ms) :
    Before (n :: ns) (n :: ms) := by
  cases ns with
  | nil => exact h.elim
  | cons a ns =>
      cases ms with
      | nil =>
          cases ns with
          | nil => exact h.elim
          | cons b ns => exact h.elim
      | cons b ms => exact Or.inr ⟨rfl, h⟩

theorem ne_nil_of_mem_trails {e : Entry} (h : e.Proper) (ns : List String)
    (hns : ns ∈ trails e) : ns ≠ [] :=
  ((mem_trails h ns).mp hns).1

/-- Entries of a folder with different names, in the order of these names. -/
theorem pairwise_sortBy_nameOrder {α : Type} (entries : List (String × α))
    (h : (entries.map Prod.fst).Nodup) :
    (sortBy nameOrder entries).Pairwise fun a b => a.1 ≤ b.1 ∧ a.1 ≠ b.1 := by
  have hle : ∀ a b : String × α, nameOrder a b = true ↔ a.1 ≤ b.1 := fun a b => decide_eq_true_iff
  have hsorted := pairwise_sortBy_of (nameOrder (α := α))
    (fun a b => by rw [hle, hle]; exact String.le_total a.1 b.1)
    (fun a b c hab hbc => by rw [hle] at hab hbc ⊢; exact String.le_trans hab hbc) entries
  -- The names are different, so that the order by names is strict.
  have hnodup : ((sortBy nameOrder entries).map Prod.fst).Nodup :=
    ((perm_sortBy nameOrder entries).map Prod.fst).nodup_iff.mpr h
  exact hsorted.imp₂ (fun {a b} hab hne => ⟨(hle a b).mp hab, hne⟩) (List.pairwise_map.mp hnodup)

/-- The trails of a proper tree come in the order of the walk. -/
theorem pairwise_trails {e : Entry} (h : e.Proper) : (trails e).Pairwise Before := by
  induction h with
  | file content => rw [trails_of_not_folder _ rfl]; exact .nil
  | link target => rw [trails_of_not_folder _ rfl]; exact .nil
  | folder entries hnodup hnames hentries ih =>
      have hsorted := pairwise_sortBy_nameOrder entries hnodup
      have hmem : ∀ e ∈ sortBy nameOrder entries, e ∈ entries := fun e he =>
        (mem_sortBy nameOrder e entries).mp he
      rw [trails_folder, List.pairwise_append]
      -- No way down through a folder ends at the folder, so there is a name behind its name.
      have hcons : ∀ e ∈ entries, ∀ ns ∈ (trails e.2).map (e.1 :: ·),
          ∃ m ms, m :: ms ∈ trails e.2 ∧ ns = e.1 :: m :: ms := by
        intro e he ns hns
        rcases List.mem_map.mp hns with ⟨ms, hms, heq⟩
        cases ms with
        | nil => exact absurd rfl (ne_nil_of_mem_trails (hentries e he) [] hms)
        | cons m ms => exact ⟨m, ms, hms, heq.symm⟩
      refine ⟨?_, List.pairwise_flatMap.mpr ⟨fun e he => ?_, ?_⟩, ?_⟩
      · exact List.pairwise_map.mpr ((hsorted.filter _).imp fun {a b} hab => hab)
      · refine List.pairwise_map.mpr ((ih e (hmem e he)).imp fun {a b} hab => ?_)
        exact before_cons e.1 a b hab
      · refine hsorted.imp_of_mem fun {a b} ha hb hab ns hns ms hms => ?_
        rcases hcons a (hmem a ha) ns hns with ⟨_, _, _, hns⟩
        rcases hcons b (hmem b hb) ms hms with ⟨_, _, _, hms⟩
        rw [hns, hms]
        exact Or.inl hab
      -- What is in the folder itself comes before all that is deeper, whatever the names.
      · intro ns hns ms hms
        rcases List.mem_map.mp hns with ⟨e, _, hns⟩
        rcases List.mem_flatMap.mp hms with ⟨b, hb, hms⟩
        rcases hcons b (hmem b hb) ms hms with ⟨_, _, _, hms⟩
        rw [← hns, hms]
        exact trivial

/-- No trail comes twice. -/
theorem nodup_trails {e : Entry} (h : e.Proper) : (trails e).Nodup := by
  refine (pairwise_trails h).imp fun {a b} hab heq => ?_
  rw [heq] at hab
  exact not_before_self b hab

/-- Trees with the same ways down to what passes a test have the same such trails. -/
theorem filter_trails_eq_of_mem {e e' : Entry} (h : e.Proper) (h' : e'.Proper)
    (test test' : List String → Bool)
    (hmem : ∀ ns, (ns ∈ trails e ∧ test ns = true) ↔ (ns ∈ trails e' ∧ test' ns = true)) :
    (trails e).filter test = (trails e').filter test' := by
  -- Both lists are in the one order of the walk, so that having the same members is enough.
  refine List.Perm.eq_of_pairwise (fun a b _ _ hab hba => ?_) ((pairwise_trails h).filter test)
    ((pairwise_trails h').filter test') ?_
  · exact absurd hba (not_before_of_before a b hab)
  · refine (List.perm_ext_iff_of_nodup ((nodup_trails h).filter test)
      ((nodup_trails h').filter test')).mpr fun ns => ?_
    rw [List.mem_filter, List.mem_filter]
    exact hmem ns

end Entry

/-! ## The walk -/

namespace Disk

/-- A disk with a proper tree. -/
def Proper (d : Disk) : Prop :=
  d.root.Proper

/-- The path of names in a folder, one in the other. -/
def joinAll (path : String) (ns : List String) : String :=
  ns.foldl join path

theorem joinAll_cons (path n : String) (ns : List String) :
    joinAll path (n :: ns) = joinAll (join path n) ns := rfl

end Disk

namespace Entry

theorem filesOfFolders_eq (d : Disk) (path : String) (entries : List (String × Entry)) :
    filesOfFolders d path entries =
      entries.map fun e => (e.1, files d (Disk.join path e.1) e.2) := by
  induction entries with
  | nil => rw [filesOfFolders, List.map_nil]
  | cons e rest ih =>
      rcases e with ⟨name, e⟩
      rw [filesOfFolders, filesOfNamed, ih, List.map_cons]

theorem standsForFile_eq (d : Disk) (path : String) (e : String × Entry) :
    standsForFile d path e = (!e.2.isFolder && d.isFile (Disk.join path e.1)) := by
  rcases e with ⟨name, e⟩
  cases e with
  | file content => rfl
  | link target => rfl
  | folder entries => rfl

theorem files_of_not_folder (d : Disk) (path : String) (e : Entry) (h : e.isFolder = false) :
    files d path e = [] := by
  cases e with
  | folder entries => exact nomatch h
  | file content => rw [files]; exact fun _ heq => nomatch heq
  | link target => rw [files]; exact fun _ heq => nomatch heq

theorem files_folder (d : Disk) (path : String) (entries : List (String × Entry)) :
    files d path (.folder entries) =
      ((sortBy nameOrder entries).filter (standsForFile d path)).map
          (fun e => Disk.join path e.1) ++
        (sortBy nameOrder entries).flatMap fun e => files d (Disk.join path e.1) e.2 := by
  rw [files, filesOfFolders_eq, sortBy_nameOrder_map fun e => files d (Disk.join path e.1) e.2,
    List.flatMap_map]

/-- The walk joins the trails to the path of the folder, and leaves out what is no file. -/
theorem files_eq (d : Disk) {e : Entry} (h : e.Proper) :
    ∀ path, files d path e = ((trails e).map (Disk.joinAll path)).filter d.isFile := by
  have hleaf : ∀ e : Entry, e.isFolder = false → ∀ path,
      files d path e = ((trails e).map (Disk.joinAll path)).filter d.isFile := by
    intro e he path
    rw [files_of_not_folder d path e he, trails_of_not_folder e he]
    rfl
  induction h with
  | file content => exact hleaf _ rfl
  | link target => exact hleaf _ rfl
  | folder entries hnodup hnames hentries ih =>
      intro path
      have hinside : (sortBy nameOrder entries).flatMap
            (fun e => files d (Disk.join path e.1) e.2) =
          (sortBy nameOrder entries).flatMap fun e =>
            (((trails e.2).map (e.1 :: ·)).map (Disk.joinAll path)).filter d.isFile := by
        refine List.flatMap_congr fun e he => ?_
        rw [ih e ((mem_sortBy nameOrder e entries).mp he), List.map_map]
        rfl
      rw [files_folder, trails_folder, List.map_append, List.filter_append, List.map_flatMap,
        List.filter_flatMap, hinside]
      -- The files of the folder itself are asked for on both sides, in one step or in two.
      congr 1
      rw [List.map_map, List.filter_map, List.filter_filter]
      congr 1
      refine List.filter_congr fun e _ => ?_
      rw [standsForFile_eq, Bool.and_comm]
      rfl

end Entry

end CodeAudit
