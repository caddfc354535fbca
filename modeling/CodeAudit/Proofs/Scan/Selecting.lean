import CodeAudit.Proofs.Scan.View

/-!
# The Selected Files

Which files a scan searches, and in which order.

The files of a project are found by a walk that keeps the folders it has been in, and goes into none
of them again. What it keeps could hide a folder, so it has to be shown that it never does: a walk
goes into real folders only, each of which stands at one place of the tree, and no two ways down
from the root end at one place. `Walks` is the invariant. A walk through a folder keeps places in it
and no others, so the next folder has not been seen.

What the walk gives is then known by its members and its order. A file is selected if it is reached
through folders, whatever links there are besides, and if its path passes the globs. The order is
that of names, so it does not matter how the system lists them: `Reordered` trees, in which the
entries of each folder are listed in another order, have the same selected files.

## Main definitions

* `Stop`, `walkStops`: The walk with the folders it has been in.
* `Selectable`: A path leads to a file that has to be selected.
* `ExactSelection`: Some files are those that have to be selected, in the order of the walk.
* `Entry.Reordered`, `Disk.Reordered`: Trees that are listed in different orders.

## Theorems

* `walks_folder`: The walk hides no folder.
* `Entry.alike_of_reordered`: Trees that are listed in different orders have the same entries.
* `exactSelection_selectFiles`: The files that have to be selected are.
* `selectFiles_of_reordered`: The order of the listings makes no difference.
* `selectFiles_exact`: Selection is exact.
-/

namespace CodeAudit

/-! ## The walk -/

/-- A folder that the walk comes to: its path, its place and what is in it. -/
structure Stop where
  path : String
  place : Place
  entries : List (String × Entry)

namespace Stop

/-- The folder under a name, if it is one and no link. -/
def into (path : String) (place : Place) (e : String × Entry) : Option Stop :=
  match e.2 with
  | .folder entries => some ⟨Disk.join path e.1, e.1 :: place, entries⟩
  | _ => none

/-- The files in a folder by name. -/
def files (d : Disk) (s : Stop) : List String :=
  ((sortBy nameOrder s.entries).filter (standsForFile d s.path)).map
    fun e => Disk.join s.path e.1

/-- The folders in a folder by name. -/
def next (s : Stop) : List Stop :=
  (sortBy nameOrder s.entries).filterMap (into s.path s.place)

theorem sum_sizeOf_into_lt (path : String) (place : Place) (entries : List (String × Entry)) :
    ((entries.filterMap (into path place)).map fun s => sizeOf s.entries).sum <
      sizeOf entries := by
  induction entries with
  | nil => exact Nat.lt_add_one 0
  -- Only folders count, and what is in a folder is smaller than the folder as an entry.
  | cons e rest ih =>
      rcases e with ⟨n, e⟩
      have hsize : sizeOf ((n, e) :: rest) = 1 + (1 + sizeOf n + sizeOf e) + sizeOf rest := rfl
      rw [hsize, List.filterMap_cons]
      cases e with
      | folder inside =>
          have hinside : sizeOf (Entry.folder inside) = 1 + sizeOf inside :=
            Entry.folder.sizeOf_spec inside
          simp only [into, List.map_cons, List.sum_cons]
          omega
      | file content =>
          simp only [into]
          omega
      | link target =>
          simp only [into]
          omega

theorem sum_sizeOf_next_lt (s : Stop) :
    (s.next.map fun t => sizeOf t.entries).sum < sizeOf s.entries := by
  have hperm : s.next.Perm (s.entries.filterMap (into s.path s.place)) :=
    (perm_sortBy nameOrder s.entries).filterMap _
  rw [(hperm.map fun t => sizeOf t.entries).sum_nat]
  exact sum_sizeOf_into_lt s.path s.place s.entries

end Stop

/-- The walk through folders, with the places of those it has been in. It leaves out a folder that
    it has been in, and otherwise goes on with the folders in it. -/
def walkStops (d : Disk) : List Place → List Stop → List String
  | _, [] => []
  | seen, s :: rest =>
    if s.place ∈ seen then walkStops d seen rest
    else s.files d ++ walkStops d (s.place :: seen) (s.next ++ rest)
termination_by _ stops => (stops.map fun s => sizeOf s.entries).sum
decreasing_by
  · have hpos : 0 < sizeOf s.entries := Nat.lt_of_le_of_lt (Nat.zero_le _) s.sum_sizeOf_next_lt
    rw [List.map_cons, List.sum_cons]
    omega
  · have hlt := s.sum_sizeOf_next_lt
    rw [List.map_append, List.sum_append_nat, List.map_cons, List.sum_cons]
    omega

/-- The walk through some folders in a place gives some files, and keeps places in that place and
    no others. -/
def Walks (d : Disk) (place : Place) (seen : List Place) (stops : List Stop)
    (files : List String) : Prop :=
  ∃ more, (∀ p ∈ more, place <:+ p) ∧
    ∀ rest, walkStops d seen (stops ++ rest) = files ++ walkStops d (more ++ seen) rest

/-- Names in a folder do not lead to one place. -/
theorem eq_of_suffix_of_suffix (m n : String) (place p : Place) (hm : m :: place <:+ p)
    (hn : n :: place <:+ p) : m = n :=
  (List.cons.inj ((List.suffix_of_suffix_length_le hm hn (Nat.le_refl _)).eq_of_length rfl)).1

/-- The walk goes through the folders in a folder one after the other. -/
theorem walks_into (d : Disk) (path : String) (place : Place) (entries : List (String × Entry))
    (hnodup : (entries.map Prod.fst).Nodup)
    (hwalk : ∀ e ∈ entries, ∀ inside, e.2 = .folder inside → ∀ seen,
      (∀ p ∈ seen, ¬ e.1 :: place <:+ p) →
        Walks d (e.1 :: place) seen [⟨Disk.join path e.1, e.1 :: place, inside⟩]
          (e.2.files d (Disk.join path e.1))) :
    ∀ seen, (∀ e ∈ entries, ∀ p ∈ seen, ¬ e.1 :: place <:+ p) →
      Walks d place seen (entries.filterMap (Stop.into path place))
        (entries.flatMap fun e => e.2.files d (Disk.join path e.1)) := by
  induction entries with
  | nil => exact fun seen _ => ⟨[], fun _ hp => absurd hp List.not_mem_nil, fun _ => rfl⟩
  | cons e entries ih =>
      intro seen hseen
      rw [List.map_cons, List.nodup_cons] at hnodup
      rw [List.forall_mem_cons] at hseen hwalk
      -- What is no folder gives nothing and is no stop, so the others are as if it were not
      -- there.
      have hleaf : Stop.into path place e = none → e.2.files d (Disk.join path e.1) = [] →
          Walks d place seen ((e :: entries).filterMap (Stop.into path place))
            ((e :: entries).flatMap fun e => e.2.files d (Disk.join path e.1)) := by
        intro hinto hfiles
        rw [List.filterMap_cons_none hinto, List.flatMap_cons, hfiles, List.nil_append]
        exact ih hnodup.2 hwalk.2 seen hseen.2
      cases he : e.2 with
      | file content =>
          exact hleaf (by rw [Stop.into, he]) (Entry.files_of_not_folder d _ _ (by rw [he]; rfl))
      | link target =>
          exact hleaf (by rw [Stop.into, he]) (Entry.files_of_not_folder d _ _ (by rw [he]; rfl))
      | folder inside =>
          have hinto : Stop.into path place e =
              some ⟨Disk.join path e.1, e.1 :: place, inside⟩ := by rw [Stop.into, he]
          rcases hwalk.1 inside he seen hseen.1 with ⟨here, hhere, hfirst⟩
          -- What the first folder has left is in it, and not in a folder with another name.
          have hfresh : ∀ b ∈ entries, ∀ p ∈ here ++ seen, ¬ b.1 :: place <:+ p := by
            intro b hb p hp hsuffix
            rcases List.mem_append.mp hp with hp | hp
            · refine hnodup.1 ?_
              rw [eq_of_suffix_of_suffix e.1 b.1 place p (hhere p hp) hsuffix]
              exact List.mem_map_of_mem hb
            · exact hseen.2 b hb p hp hsuffix
          rcases ih hnodup.2 hwalk.2 (here ++ seen) hfresh with ⟨more, hmore, hrest⟩
          refine ⟨more ++ here, fun p hp => ?_, fun rest => ?_⟩
          · rcases List.mem_append.mp hp with hp | hp
            · exact hmore p hp
            · exact (List.suffix_cons e.1 place).trans (hhere p hp)
          · rw [List.filterMap_cons_some hinto, List.flatMap_cons, List.append_assoc,
              List.append_assoc, ← hrest rest, ← hfirst]
            rfl

/-- The walk through a folder of a proper tree that has not been seen gives all files in it. What it
    keeps of the folders it has been in hides none. -/
theorem walks_folder (d : Disk) {e : Entry} (h : e.Proper) :
    ∀ entries, e = .folder entries → ∀ path place seen, (∀ p ∈ seen, ¬ place <:+ p) →
      Walks d place seen [⟨path, place, entries⟩] (e.files d path) := by
  induction h with
  | file content => exact fun _ heq => nomatch heq
  | link target => exact fun _ heq => nomatch heq
  | folder entries hnodup _ _ ih =>
      intro inside heq path place seen hseen
      rw [← Entry.folder.inj heq]
      have hperm := perm_sortBy nameOrder entries
      -- No folder in this one is the folder itself, which is too short, and none has been seen.
      have hfresh : ∀ e ∈ sortBy nameOrder entries, ∀ p ∈ place :: seen,
          ¬ e.1 :: place <:+ p := by
        intro e _ p hp hsuffix
        rcases List.mem_cons.mp hp with hp | hp
        · rw [hp] at hsuffix
          exact absurd hsuffix.length_le (Nat.not_succ_le_self _)
        · exact hseen p hp ((List.suffix_cons e.1 place).trans hsuffix)
      rcases walks_into d path place (sortBy nameOrder entries)
        ((hperm.map Prod.fst).nodup_iff.mpr hnodup)
        (fun e he inside hinside seen hseen => ih e (hperm.mem_iff.mp he) inside hinside
          (Disk.join path e.1) (e.1 :: place) seen hseen)
        (place :: seen) hfresh with ⟨more, hmore, hwalk⟩
      refine ⟨more ++ [place], fun p hp => ?_, fun rest => ?_⟩
      · rcases List.mem_append.mp hp with hp | hp
        · exact hmore p hp
        · rw [List.mem_singleton.mp hp]
      · have hnot : place ∉ seen := fun hmem => hseen place hmem (List.suffix_refl place)
        have hlist := hwalk rest
        rw [Entry.files_folder, List.singleton_append, walkStops, if_neg hnot, List.append_assoc,
          List.append_assoc, List.singleton_append]
        exact congrArg _ hlist

/-- The walk through a project, from its root. -/
def walkProject (d : Disk) (root : String) : List String :=
  match d.locate true root with
  | .ok place =>
    match d.at? place with
    | some (.folder entries) => walkStops d [] [⟨root, place, entries⟩]
    | _ => []
  | .error _ => []

/-- The walk through a project finds its files. -/
theorem walkProject_eq (d : Disk) (hd : d.Proper) (root : String) :
    walkProject d root = projectFiles d root := by
  unfold walkProject projectFiles Disk.lookup
  cases hplace : d.locate true root with
  | error e => rfl
  | ok place =>
      simp only [ok_bind]
      cases hat : d.at? place with
      | none => rfl
      | some e =>
          cases e with
          | file content => exact (Entry.files_of_not_folder d root (.file content) rfl).symm
          | link target => exact (Entry.files_of_not_folder d root (.link target) rfl).symm
          | folder entries =>
              have he : (Entry.folder entries).Proper := hd.descend place.reverse _ hat
              rcases walks_folder d he entries rfl root place []
                (fun _ hp => absurd hp List.not_mem_nil) with ⟨more, _, hwalk⟩
              have hall := hwalk []
              rw [walkStops, List.append_nil, List.append_nil] at hall
              exact hall

/-! ## The files that have to be selected -/

/-- A path leads to a file that has to be selected: from the root down through folders, without a
    link before the last name, to a file or a link to one. Its way from the root matches some glob
    of one list and none of the other. -/
structure Selectable (d : Disk) (root : String) (includes excludes : List String)
    (path : String) : Prop where
  reached : ∃ place entries ns x, d.locate true root = .ok place ∧
    d.at? place = some (.folder entries) ∧ ns ≠ [] ∧ path = Disk.joinAll root ns ∧
      d.relativeTo root path = String.ofList (Path.joinNames (ns.map String.toList)) ∧
        d.at? (ns.reverse ++ place) = some x ∧ x.isFolder = false
  isFile : d.isFile path = true
  included : ∃ g ∈ includes, matchesGlob (d.relativeTo root path).toList g.toList = true
  spared : ∀ g ∈ excludes, matchesGlob (d.relativeTo root path).toList g.toList = false

/-- Some files are those that have to be selected, each of them once and in the order of the walk:
    the files of a folder by name, and then its folders by name. -/
structure ExactSelection (d : Disk) (root : String) (includes excludes files : List String) :
    Prop where
  members : ∀ path, path ∈ files ↔ Selectable d root includes excludes path
  nodup : files.Nodup
  order : ∃ trails : List (List String), files = trails.map (Disk.joinAll root) ∧
    trails.Pairwise Entry.Before

theorem accepts_iff (includes excludes : List String) (path : String) :
    accepts includes excludes path = true ↔
      (∃ g ∈ includes, matchesGlob path.toList g.toList = true) ∧
        ∀ g ∈ excludes, matchesGlob path.toList g.toList = false := by
  rw [accepts]
  simp only [Bool.and_eq_true, Bool.not_eq_true', List.any_eq_true, List.any_eq_false,
    Bool.not_eq_true]
  exact and_comm

/-- Selection takes the files that have to be selected. -/
theorem mem_selectFiles_iff (d : Disk) (hd : d.Proper) (root : String)
    (includes excludes : List String) (path : String) :
    path ∈ selectFiles d root includes excludes ↔
      Selectable d root includes excludes path := by
  constructor
  · intro h
    rcases d.exists_of_isFolder root (isFolder_of_mem_selectFiles d root _ _ path h) with
      ⟨entries, hlookup⟩
    rcases d.locate_of_lookup root _ hlookup with ⟨place, hplace, hat⟩
    have he := hd.lookup root _ hlookup
    rw [selectFiles_eq d hd root _ hlookup] at h
    rcases List.mem_map.mp h with ⟨ns, hns, heq⟩
    rw [List.mem_filter, leadsToSelected, Bool.and_eq_true, heq, accepts_iff] at hns
    -- The way from the root is shown by the names that the walk has gone through.
    have hway := d.relativeTo_joinAll root ns (Entry.ne_nil_of_mem_trails he ns hns.1)
      (Entry.isName_of_mem_trails he ns hns.1)
    rcases (d.mem_trails_iff place _ he hat ns).mp hns.1 with ⟨hne, x, hx, hleaf⟩
    exact ⟨⟨place, entries, ns, x, hplace, hat, hne, heq.symm, heq ▸ hway, hx, hleaf⟩,
      hns.2.2, hns.2.1.1, hns.2.1.2⟩
  · rintro ⟨⟨place, entries, ns, x, hplace, hat, hne, heq, _, hx, hleaf⟩, hfile, hin, hout⟩
    have hlookup : d.lookup root = .ok (.folder entries) := by
      rw [d.lookup_of_locate root place hplace, hat]
    have he := hd.lookup root _ hlookup
    rw [selectFiles_eq d hd root _ hlookup, heq]
    refine List.mem_map_of_mem (List.mem_filter.mpr ⟨?_, ?_⟩)
    · exact (d.mem_trails_iff place _ he hat ns).mpr ⟨hne, x, hx, hleaf⟩
    · rw [leadsToSelected, Bool.and_eq_true, ← heq, accepts_iff]
      exact ⟨⟨hin, hout⟩, hfile⟩

/-- The files that have to be selected are selected, and no others. -/
theorem exactSelection_selectFiles (d : Disk) (hd : d.Proper) (root : String)
    (includes excludes : List String) :
    ExactSelection d root includes excludes (selectFiles d root includes excludes) := by
  refine ⟨mem_selectFiles_iff d hd root includes excludes,
    List.Nodup.of_map _ (nodup_ways d hd root includes excludes), ?_⟩
  cases hlookup : d.lookup root with
  | error e =>
      refine ⟨[], ?_, .nil⟩
      rw [selectFiles, projectFiles, hlookup]
      rfl
  | ok e =>
      refine ⟨_, selectFiles_eq d hd root e hlookup includes excludes, ?_⟩
      exact (Entry.pairwise_trails (hd.lookup root e hlookup)).filter _

/-! ## The order of the listings -/

namespace Entry

/-- Two trees differ in the order in which the entries of their folders are listed, and in nothing
    else. -/
inductive Reordered : Entry → Entry → Prop
  | file (content : List UInt8) : Reordered (.file content) (.file content)
  | link (target : String) : Reordered (.link target) (.link target)
  | folder (entries entries' : List (String × Entry))
      (hnames : (entries.map Prod.fst).Perm (entries'.map Prod.fst))
      (hinside : ∀ e ∈ entries, ∀ e' ∈ entries', e'.1 = e.1 → Reordered e.2 e'.2) :
      Reordered (.folder entries) (.folder entries')

/-- A tree that is listed in another order is proper, and has the same entries at the end of all
    ways down, up to the order in which folders are listed. -/
theorem alike_of_reordered {e e' : Entry} (h : e.Reordered e') (he : e.Proper) :
    e'.Proper ∧ ∀ ns : List String, Alike (e.descend ns) (e'.descend ns) := by
  induction h with
  | file content => exact ⟨he, fun _ => alike_refl _⟩
  | link target => exact ⟨he, fun _ => alike_refl _⟩
  | folder entries entries' hnames hinside ih =>
      cases he with
      | folder _ hnodup hproper hentries =>
          have hnodup' := hnames.nodup_iff.mp hnodup
          have hback : ∀ e' ∈ entries', ∃ e ∈ entries, e.1 = e'.1 := fun e' he' =>
            List.mem_map.mp (hnames.mem_iff.mpr (List.mem_map_of_mem he'))
          -- Every entry of one listing has its name in the other, so each side can be searched
          -- by names.
          refine ⟨.folder entries' hnodup' (fun e' he' => ?_) (fun e' he' => ?_), fun ns => ?_⟩
          · rcases hback e' he' with ⟨e, he, hname⟩
            exact hname ▸ hproper e he
          · rcases hback e' he' with ⟨e, he, hname⟩
            exact (ih e he e' he' hname.symm (hentries e he)).1
          · cases ns with
            | nil => exact trivial
            | cons n ns =>
                rw [descend_cons, descend_cons]
                cases hx : entries.lookup n with
                | none =>
                    have hnone : entries'.lookup n = none := by
                      rw [lookup_eq_none_iff_not_mem, ← hnames.mem_iff,
                        ← lookup_eq_none_iff_not_mem]
                      exact hx
                    rw [hnone]
                    exact alike_refl _
                | some x =>
                    rw [lookup_eq_some_iff_mem entries hnodup] at hx
                    have hname : n ∈ entries'.map Prod.fst :=
                      hnames.mem_iff.mp (List.mem_map_of_mem hx)
                    rcases List.mem_map.mp hname with ⟨⟨m, x'⟩, hx', rfl⟩
                    rw [(lookup_eq_some_iff_mem entries' hnodup' m x').mpr hx']
                    exact (ih (m, x) hx (m, x') hx' rfl (hentries (m, x) hx)).2 ns

end Entry

/-- Two disks differ in the order in which the entries of their folders are listed. -/
structure Disk.Reordered (d d' : Disk) : Prop where
  cwd : d'.cwd = d.cwd
  root : d.root.Reordered d'.root

theorem Disk.Reordered.rewrites {d d' : Disk} (h : d.Reordered d') (hd : d.Proper) :
    Disk.Rewrites [] d d' :=
  ⟨h.cwd, fun place _ => (Entry.alike_of_reordered h.root hd).2 place.reverse,
    fun _ hp => absurd hp List.not_mem_nil, fun _ hp => absurd hp List.not_mem_nil⟩

/-- The order in which the system lists entries makes no difference to the selected files and to
    their order. -/
theorem selectFiles_of_reordered (d d' : Disk) (hd : d.Proper) (h : d.Reordered d')
    (root : String) (includes excludes : List String) :
    selectFiles d' root includes excludes = selectFiles d root includes excludes := by
  have hd' : d'.Proper := (Entry.alike_of_reordered h.root hd).1
  have hrewrites := h.rewrites hd
  -- Where there is a folder, nothing has changed for the walk but the order of listings.
  by_cases hroot : d.isFolder root = true
  · have hsame := looksSame_of_rewrites hrewrites hd hd' root
      { Config.standard with includes, excludes } hroot (fun _ _ _ _ => List.not_mem_nil)
      fun _ _ _ _ => List.not_mem_nil
    exact hsame.files
  · have hroot' : d'.isFolder root ≠ true := by
      intro hfolder
      rcases d'.exists_of_isFolder root hfolder with ⟨entries, hlookup⟩
      rcases d'.locate_of_lookup root _ hlookup with ⟨place, hplace, hat⟩
      rcases hrewrites.symm.sameWays.folder place entries hat with ⟨entries', hat'⟩
      refine hroot ?_
      rw [Disk.isFolder, d.lookup_of_locate root place (hrewrites.symm.locate true root place
        hplace), hat']
    have hnone : ∀ e : Disk, e.isFolder root ≠ true → selectFiles e root includes excludes = [] :=
      fun e he => List.eq_nil_iff_forall_not_mem.mpr fun path hpath =>
        he (isFolder_of_mem_selectFiles e root includes excludes path hpath)
    rw [hnone d hroot, hnone d' hroot']

/-- Selection is exact. The walk, with all that it keeps of the folders it has been in, comes to an
    end with the files that have to be selected, each once and in the order of names, however the
    system lists the entries of folders. -/
theorem selectFiles_exact (d : Disk) (hd : d.Proper) (root : String)
    (includes excludes : List String) :
    selectFiles d root includes excludes =
        (walkProject d root).filter
          (fun path => accepts includes excludes (d.relativeTo root path)) ∧
      ExactSelection d root includes excludes (selectFiles d root includes excludes) ∧
      ∀ d' : Disk, d.Reordered d' →
        selectFiles d' root includes excludes = selectFiles d root includes excludes := by
  refine ⟨?_, exactSelection_selectFiles d hd root includes excludes, fun d' h => ?_⟩
  · rw [walkProject_eq d hd root, selectFiles]
  · exact selectFiles_of_reordered d d' hd h root includes excludes

/-- A project with links: to a file, to nothing, and to the folders they are in. -/
def linkedDisk : Disk where
  root := .folder
    [("p", .folder
      [("src", .folder [("up", .link ".."), ("b.py", .file []), ("c.py", .file [])]),
       ("z.py", .file []), ("all", .link "/p"), ("lost.py", .link "nowhere"),
       ("a.py", .link "src/b.py"), ("a.txt", .file [])])]
  cwd := []

/-- Links to folders are not followed, and a link counts as a file if it leads to one. -/
theorem selectFiles_exact_links :
    linkedDisk.Proper ∧
      selectFiles linkedDisk "/p" ["**/*.py"] ["src/c*"] = ["/p/a.py", "/p/z.py", "/p/src/b.py"] ∧
      selectFiles linkedDisk "/p" ["**/*.py"] ["src/c*"] =
        (walkProject linkedDisk "/p").filter
          (fun path => accepts ["**/*.py"] ["src/c*"] (linkedDisk.relativeTo "/p" path)) ∧
      ExactSelection linkedDisk "/p" ["**/*.py"] ["src/c*"]
        (selectFiles linkedDisk "/p" ["**/*.py"] ["src/c*"]) ∧
      ∀ d' : Disk, linkedDisk.Reordered d' →
        selectFiles d' "/p" ["**/*.py"] ["src/c*"] =
          selectFiles linkedDisk "/p" ["**/*.py"] ["src/c*"] := by
  have hproper : linkedDisk.Proper := Entry.proper_of_isProper _ (by decide +kernel)
  exact ⟨hproper, by decide +kernel,
    selectFiles_exact linkedDisk hproper "/p" ["**/*.py"] ["src/c*"]⟩

end CodeAudit
