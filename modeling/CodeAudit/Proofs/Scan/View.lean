import CodeAudit.Proofs.Disk.Changes
import CodeAudit.Proofs.Disk.Relative
import CodeAudit.Proofs.Rule.Loading
import CodeAudit.Proofs.Scan.Files

/-!
# What a Scan Looks At

The files a scan depends on.

A scan looks at the files that it searches and at the files it takes rules from. Two disks on which
these are the same, with the same content, are the same to a scan: it has the same rules and finds
the same. `LooksSame` collects this, and `findings_of_looksSame` is why nothing else is needed.

Which files are selected is a matter of the whole tree, so it has to be shown that a change
elsewhere does not show in it. The selected files are known by the trails they are on. A trail that
is there on both disks, with a file at its end on both, is selected on both, and the order of the
walk does the rest. The same is said of the files of rules, whose names are in one folder.

## Main definitions

* `lookedAt`: The files a scan looks at.
* `LooksSame`: Two disks are the same to a scan.
* `LogFree`: An operation does not read the log.

## Theorems

* `nodup_ways`: Selected files have different ways from the root.
* `selectFiles_congr`: Disks with the same trails to files have the same selected files.
* `customRuleFiles_congr`: Disks with the same files of rules.
* `looksSame_of_rewrites`: Files that are rewritten elsewhere make no difference.
* `looksSame_of_grows`: Folders that are made make no difference, unless they bring a file into
  view.
* `exists_of_resolveRules`: The rules that apply are loaded ones, whatever the log says before.
* `findings_of_looksSame`: Scans find the same on disks that are the same to them.
-/

namespace CodeAudit

/-! ## Selected files -/

/-- The files of a project in a proper disk are on the trails of its folder. -/
theorem projectFiles_eq (d : Disk) (hd : d.Proper) (root : String) (e : Entry)
    (h : d.lookup root = .ok e) :
    projectFiles d root = (e.trails.map (Disk.joinAll root)).filter d.isFile := by
  rw [projectFiles, h]
  exact Entry.files_eq d (hd.lookup root e h) root

theorem isFolder_of_mem_selectFiles (d : Disk) (root : String) (includes excludes : List String)
    (path : String) (h : path ∈ selectFiles d root includes excludes) : d.isFolder root = true := by
  have hmem : path ∈ projectFiles d root := List.mem_of_mem_filter h
  unfold projectFiles at hmem
  split at hmem
  · rename_i e heq
    rw [Disk.isFolder, heq]
    cases e with
    | folder entries => rfl
    | file content => rw [Entry.files_of_not_folder d root _ rfl] at hmem; cases hmem
    | link target => rw [Entry.files_of_not_folder d root _ rfl] at hmem; cases hmem
  · cases hmem

/-- A trail leads to a file that is selected. -/
def leadsToSelected (d : Disk) (root : String) (includes excludes : List String)
    (ns : List String) : Bool :=
  accepts includes excludes (d.relativeTo root (Disk.joinAll root ns)) &&
    d.isFile (Disk.joinAll root ns)

/-- The selected files are on some trails, in their order. -/
theorem selectFiles_eq (d : Disk) (hd : d.Proper) (root : String) (e : Entry)
    (h : d.lookup root = .ok e) (includes excludes : List String) :
    selectFiles d root includes excludes =
      (e.trails.filter (leadsToSelected d root includes excludes)).map (Disk.joinAll root) := by
  rw [selectFiles, projectFiles_eq d hd root e h, List.filter_filter, List.filter_map]
  rfl

/-- The ways from the root to the selected files are different. -/
theorem nodup_ways (d : Disk) (hd : d.Proper) (root : String) (includes excludes : List String) :
    ((selectFiles d root includes excludes).map (d.relativeTo root)).Nodup := by
  by_cases hroot : d.isFolder root = true
  · rcases d.exists_of_isFolder root hroot with ⟨entries, hlookup⟩
    have he := hd.lookup root _ hlookup
    rw [selectFiles_eq d hd root _ hlookup, List.map_map]
    -- Different trails have different paths, so their ways are different, and no trail comes
    -- twice.
    refine (List.nodup_map_iff_inj_on ((Entry.nodup_trails he).filter _)).mpr ?_
    intro ns hns ms hms heq
    have hns := List.mem_of_mem_filter hns
    have hms := List.mem_of_mem_filter hms
    exact Disk.relativeTo_joinAll_injective d root d root ns ms
      (Entry.ne_nil_of_mem_trails he ns hns) (Entry.ne_nil_of_mem_trails he ms hms)
      (Entry.isName_of_mem_trails he ns hns) (Entry.isName_of_mem_trails he ms hms) heq
  · have hnil : selectFiles d root includes excludes = [] := by
      refine List.eq_nil_iff_forall_not_mem.mpr fun path hpath => hroot ?_
      exact isFolder_of_mem_selectFiles d root includes excludes path hpath
    rw [hnil]
    exact List.nodup_nil

/-- Trails with the same path are the same. -/
theorem joinAll_injective (root : String) {e e' : Entry} (he : e.Proper) (he' : e'.Proper)
    (ns ms : List String) (hns : ns ∈ e.trails) (hms : ms ∈ e'.trails)
    (h : Disk.joinAll root ns = Disk.joinAll root ms) : ns = ms :=
  Disk.relativeTo_joinAll_injective ⟨.file [], []⟩ root ⟨.file [], []⟩ root ns ms
    (Entry.ne_nil_of_mem_trails he ns hns) (Entry.ne_nil_of_mem_trails he' ms hms)
    (Entry.isName_of_mem_trails he ns hns) (Entry.isName_of_mem_trails he' ms hms)
    (congrArg _ h)

theorem relativeTo_congr (d d' : Disk) (h : d'.cwd = d.cwd) (root path : String) :
    d'.relativeTo root path = d.relativeTo root path := by
  rw [Disk.relativeTo, Disk.relativeTo, Disk.cwdPath, Disk.cwdPath, h]

/-- Disks with the same trails to files that are selected have the same selected files. -/
theorem selectFiles_congr (d d' : Disk) (hd : d.Proper) (hd' : d'.Proper) (hcwd : d'.cwd = d.cwd)
    (root : String) (e e' : Entry) (h : d.lookup root = .ok e) (h' : d'.lookup root = .ok e')
    (includes excludes : List String)
    (hforth : ∀ ns ∈ e.trails, Disk.joinAll root ns ∈ selectFiles d root includes excludes →
      ns ∈ e'.trails ∧ d'.isFile (Disk.joinAll root ns) = true)
    (hback : ∀ ns ∈ e'.trails, Disk.joinAll root ns ∈ selectFiles d' root includes excludes →
      ns ∈ e.trails ∧ d.isFile (Disk.joinAll root ns) = true) :
    selectFiles d' root includes excludes = selectFiles d root includes excludes := by
  rw [selectFiles_eq d hd root e h] at hforth ⊢
  rw [selectFiles_eq d' hd' root e' h'] at hback ⊢
  refine congrArg (List.map (Disk.joinAll root)) ?_
  refine Entry.filter_trails_eq_of_mem (hd'.lookup root e' h') (hd.lookup root e h) _ _ fun ns => ?_
  have hway := relativeTo_congr d d' hcwd root (Disk.joinAll root ns)
  constructor
  · rintro ⟨hns, htest⟩
    have hmore := hback ns hns (List.mem_map_of_mem (List.mem_filter.mpr ⟨hns, htest⟩))
    -- Being selected is a matter of the way, which is the same, and of being a file, which is
    -- given.
    rw [leadsToSelected, Bool.and_eq_true, hway] at htest
    rw [leadsToSelected, Bool.and_eq_true]
    exact ⟨hmore.1, htest.1, hmore.2⟩
  · rintro ⟨hns, htest⟩
    have hmore := hforth ns hns (List.mem_map_of_mem (List.mem_filter.mpr ⟨hns, htest⟩))
    rw [leadsToSelected, Bool.and_eq_true] at htest
    rw [leadsToSelected, Bool.and_eq_true, hway]
    exact ⟨hmore.1, htest.1, hmore.2⟩

/-! ## Files of rules -/

/-- The names of the files of rules in a folder. -/
def ruleNames (d : Disk) (folder : String) : List String :=
  match d.names folder with
  | .ok names => names.filter fun n =>
      d.isFile (Disk.join folder n) && hasRuleEnding (lowerText n.toList)
  | .error _ => []

theorem customRuleFiles_eq (d : Disk) (folder : String) :
    customRuleFiles d folder = (ruleNames d folder).map (Disk.join folder) := by
  unfold customRuleFiles ruleNames
  cases d.names folder with
  | error e => rfl
  | ok names =>
      dsimp only
      rw [List.filter_map, List.filter_filter]
      rfl

theorem mem_ruleNames (d : Disk) (hd : d.Proper) (folder : String) (hfolder : folder ≠ "")
    (n : String) : n ∈ ruleNames d folder ↔ Path.IsName n.toList ∧
      hasRuleEnding (lowerText n.toList) = true ∧ d.isFile (Disk.join folder n) = true := by
  unfold ruleNames
  constructor
  · intro hmem
    cases hnames : d.names folder with
    | error e =>
        rw [hnames] at hmem
        cases hmem
    | ok listed =>
        simp only [hnames, List.mem_filter, Bool.and_eq_true] at hmem
        exact ⟨(hd.names folder listed hnames).2 n hmem.1, hmem.2.2, hmem.2.1⟩
  · rintro ⟨hn, hending, hfile⟩
    rcases d.exists_of_isFile _ hfile with ⟨content, hlookup⟩
    -- A file in the folder is listed in it.
    rcases d.folder_above folder hfolder n hn _ hlookup with ⟨place, above, x, hplace, hat, hx⟩
    have hnames : d.names folder = .ok (sortTexts (above.map Prod.fst)) := by
      rw [Disk.names, d.lookup_of_locate folder place hplace, hat]
    have hlisted : n ∈ above.map Prod.fst := by
      refine Classical.byContradiction fun hnot => ?_
      rw [(Entry.lookup_eq_none_iff_not_mem n above).mpr hnot] at hx
      cases hx
    simp only [hnames, List.mem_filter, hending, hfile, Bool.and_self, and_true]
    exact (perm_sortBy _ _).mem_iff.mpr hlisted

theorem pairwise_ruleNames (d : Disk) (hd : d.Proper) (folder : String) :
    (ruleNames d folder).Pairwise fun a b => a ≤ b ∧ a ≠ b := by
  unfold ruleNames
  cases hnames : d.names folder with
  | error e => exact .nil
  | ok listed => exact (hd.names folder listed hnames).1.filter _

/-- Disks with the same files of rules in a folder. -/
theorem customRuleFiles_congr (d d' : Disk) (hd : d.Proper) (hd' : d'.Proper) (folder : String)
    (hfolder : folder ≠ "")
    (hforth : ∀ path ∈ customRuleFiles d folder, d'.isFile path = true)
    (hback : ∀ path ∈ customRuleFiles d' folder, d.isFile path = true) :
    customRuleFiles d' folder = customRuleFiles d folder := by
  rw [customRuleFiles_eq] at hforth hback ⊢
  rw [customRuleFiles_eq]
  have hsorted := pairwise_ruleNames d hd folder
  have hsorted' := pairwise_ruleNames d' hd' folder
  have hmem : ∀ n, n ∈ ruleNames d' folder ↔ n ∈ ruleNames d folder := by
    intro n
    constructor
    · intro hn
      have hfile := hback _ (List.mem_map_of_mem hn)
      rw [mem_ruleNames d' hd' folder hfolder] at hn
      exact (mem_ruleNames d hd folder hfolder n).mpr ⟨hn.1, hn.2.1, hfile⟩
    · intro hn
      have hfile := hforth _ (List.mem_map_of_mem hn)
      rw [mem_ruleNames d hd folder hfolder] at hn
      exact (mem_ruleNames d' hd' folder hfolder n).mpr ⟨hn.1, hn.2.1, hfile⟩
  -- Both folders are listed in the order of names, so that having the same names is enough.
  refine congrArg (List.map (Disk.join folder)) ?_
  exact eq_of_mem_iff _ _ hsorted' hsorted hmem

/-! ## Disks that are the same to a scan -/

/-- The files a scan looks at: those that it searches, and those it takes rules from. -/
def lookedAt (d : Disk) (root : String) (c : Config) : List String :=
  selectFiles d root c.includes c.excludes ++ customRuleFiles d (customFolder root c)

/-- Two disks are the same to a scan: it looks at the same files, and their content is the same. -/
structure LooksSame (root : String) (c : Config) (d d' : Disk) : Prop where
  cwd : d'.cwd = d.cwd
  folder : d'.isFolder root = true
  files : selectFiles d' root c.includes c.excludes = selectFiles d root c.includes c.excludes
  rules : customRuleFiles d' (customFolder root c) = customRuleFiles d (customFolder root c)
  content : ∀ path ∈ lookedAt d root c, d'.fileContent path = d.fileContent path

theorem LooksSame.trans {root : String} {c : Config} {d d' d'' : Disk}
    (h : LooksSame root c d d') (h' : LooksSame root c d' d'') : LooksSame root c d d'' := by
  refine ⟨h'.cwd.trans h.cwd, h'.folder, h'.files.trans h.files, h'.rules.trans h.rules, ?_⟩
  intro path hpath
  have hpath' : path ∈ lookedAt d' root c := by
    rw [lookedAt, h.files, h.rules]
    exact hpath
  exact (h'.content path hpath').trans (h.content path hpath)

theorem isFile_of_mem_lookedAt (d : Disk) (hd : d.Proper) (root : String) (c : Config)
    (path : String) (h : path ∈ lookedAt d root c) : d.isFile path = true := by
  rcases List.mem_append.mp h with hfile | hrule
  · rcases d.exists_of_isFolder root (isFolder_of_mem_selectFiles d root _ _ path hfile) with
      ⟨entries, hlookup⟩
    rw [selectFiles, projectFiles_eq d hd root _ hlookup] at hfile
    exact (List.mem_filter.mp (List.mem_of_mem_filter hfile)).2
  · unfold customRuleFiles at hrule
    split at hrule
    · exact nomatch hrule
    · exact (List.mem_filter.mp hrule).2

theorem customFolder_ne_empty (root : String) (c : Config) (h : root ≠ "") :
    customFolder root c ≠ "" := by
  intro heq
  have hlist := congrArg String.toList heq
  rw [customFolder, Disk.join, String.toList_ofList, Path.join] at hlist
  -- A path that is joined to begins as before, so it cannot become empty.
  have hroot : root.toList ≠ [] := fun hnil => h (String.toList_inj.mp hnil)
  split at hlist
  · rename_i habsolute
    rw [hlist] at habsolute
    cases habsolute
  · split at hlist
    · exact hroot (List.append_eq_nil_iff.mp hlist).1
    · exact hroot (List.append_eq_nil_iff.mp hlist).1

theorem ne_empty_of_isFolder (d : Disk) (root : String) (h : d.isFolder root = true) :
    root ≠ "" := by
  rintro rfl
  exact nomatch h

/-- A trail to a file at a place that is not rewritten is there on both disks. -/
theorem mem_trails_of_rewrites {places : List Place} {d d' : Disk}
    (h : Disk.Rewrites places d d') (root : String) (place : Place)
    (hplace : d.locate true root = .ok place) {e e' : Entry} (he : e.Proper) (he' : e'.Proper)
    (hat : d.at? place = some e) (hat' : d'.at? place = some e') (ns : List String)
    (hns : ns ∈ e.trails) (hout : ∀ q, d.locate true (Disk.joinAll root ns) = .ok q → q ∉ places) :
    ns ∈ e'.trails := by
  have hnames := Entry.isName_of_mem_trails he ns hns
  rw [d.mem_trails_iff place e he hat] at hns
  rcases hns with ⟨hne, x, hx, hfolder⟩
  have hstays : ns.reverse ++ place ∉ places := by
    intro hmem
    -- What is rewritten is a file, and the path with the names would lead to it.
    have hway := h.before _ hmem x hx
    refine hout _ (d.locate_joinAll x (fun t heq => hway ?_) ns root place hnames hplace hx) hmem
    rw [heq]
    exact trivial
  refine (d'.mem_trails_iff place e' he' hat' ns).mpr ⟨hne, x, ?_, hfolder⟩
  -- A trail ends at what is no folder, which the same place has on both disks.
  have halike := h.alike _ hstays
  rw [hx] at halike
  refine halike.eq fun entries heq => ?_
  rw [Option.some.inj heq] at hfolder
  exact nomatch hfolder

theorem isFile_of_rewrites {places : List Place} {d d' : Disk} (h : Disk.Rewrites places d d')
    (path : String) (hfile : d.isFile path = true)
    (hout : ∀ q, d.locate true path = .ok q → q ∉ places) :
    d'.isFile path = true ∧ d'.fileContent path = d.fileContent path := by
  rcases d.exists_of_isFile path hfile with ⟨content, hlookup⟩
  have hlookup' := h.lookup_file path content hlookup hout
  rw [Disk.isFile, Disk.fileContent, Disk.fileContent, hlookup, hlookup']
  exact ⟨rfl, rfl⟩

/-- Files that are rewritten make no difference to a scan that looks at none of them. -/
theorem looksSame_of_rewrites {places : List Place} {d d' : Disk}
    (h : Disk.Rewrites places d d') (hd : d.Proper) (hd' : d'.Proper) (root : String) (c : Config)
    (hroot : d.isFolder root = true)
    (hout : ∀ path ∈ lookedAt d root c, ∀ q, d.locate true path = .ok q → q ∉ places)
    (hout' : ∀ path ∈ lookedAt d' root c, ∀ q, d'.locate true path = .ok q → q ∉ places) :
    LooksSame root c d d' := by
  rcases d.exists_of_isFolder root hroot with ⟨entries, hlookup⟩
  rcases d.locate_of_lookup root _ hlookup with ⟨place, hplace, hat⟩
  have hplace' := h.locate true root place hplace
  rcases h.sameWays.folder place entries hat with ⟨entries', hat'⟩
  have hlookup' : d'.lookup root = .ok (.folder entries') := by
    rw [d'.lookup_of_locate root place hplace', hat']
  have he := hd.lookup root _ hlookup
  have he' := hd'.lookup root _ hlookup'
  have hforth : ∀ path ∈ lookedAt d root c, d'.isFile path = true ∧
      d'.fileContent path = d.fileContent path := fun path hpath =>
    isFile_of_rewrites h path (isFile_of_mem_lookedAt d hd root c path hpath) (hout path hpath)
  have hback : ∀ path ∈ lookedAt d' root c, d.isFile path = true := fun path hpath =>
    (isFile_of_rewrites h.symm path (isFile_of_mem_lookedAt d' hd' root c path hpath)
      (hout' path hpath)).1
  refine ⟨h.cwd, by rw [Disk.isFolder, hlookup'], ?_, ?_, fun path hpath => (hforth path hpath).2⟩
  · refine selectFiles_congr d d' hd hd' h.cwd root _ _ hlookup hlookup' _ _ ?_ ?_
    · intro ns hns hmem
      have hlooked := List.mem_append_left (customRuleFiles d (customFolder root c)) hmem
      exact ⟨mem_trails_of_rewrites h root place hplace he he' hat hat' ns hns (hout _ hlooked),
        (hforth _ hlooked).1⟩
    · intro ns hns hmem
      have hlooked := List.mem_append_left (customRuleFiles d' (customFolder root c)) hmem
      exact ⟨mem_trails_of_rewrites h.symm root place hplace' he' he hat' hat ns hns
        (hout' _ hlooked), hback _ hlooked⟩
  · have hfolder := customFolder_ne_empty root c (ne_empty_of_isFolder d root hroot)
    exact customRuleFiles_congr d d' hd hd' _ hfolder
      (fun path hpath => (hforth path (List.mem_append_right _ hpath)).1)
      fun path hpath => hback path (List.mem_append_right _ hpath)

/-- Folders that are made make no difference to a scan, if they bring no further file into its
    view. -/
theorem looksSame_of_grows {d d' : Disk} (h : Disk.Grows d d') (hd : d.Proper) (hd' : d'.Proper)
    (root : String) (c : Config) (hroot : d.isFolder root = true)
    (hfiles : ∀ path ∈ selectFiles d' root c.includes c.excludes,
      path ∈ selectFiles d root c.includes c.excludes)
    (hrules : ∀ path ∈ customRuleFiles d' (customFolder root c),
      path ∈ customRuleFiles d (customFolder root c)) : LooksSame root c d d' := by
  rcases d.exists_of_isFolder root hroot with ⟨entries, hlookup⟩
  rcases d.locate_of_lookup root _ hlookup with ⟨place, hplace, hat⟩
  rcases (h.alike place _ hat).folder with ⟨entries', hat'⟩
  have hplace' := h.locate true root place hplace (by rw [hat]; exact Option.some_ne_none _)
  have hlookup' : d'.lookup root = .ok (.folder entries') := by
    rw [d'.lookup_of_locate root place hplace', hat']
  have he := hd.lookup root _ hlookup
  have he' := hd'.lookup root _ hlookup'
  have hforth : ∀ path ∈ lookedAt d root c, d'.isFile path = true ∧
      d'.fileContent path = d.fileContent path := by
    intro path hpath
    rcases d.exists_of_isFile path (isFile_of_mem_lookedAt d hd root c path hpath) with
      ⟨content, hfile⟩
    rw [Disk.isFile, Disk.fileContent, Disk.fileContent, hfile, h.lookup_file path content hfile]
    exact ⟨rfl, rfl⟩
  -- What is selected is compared trail by trail, and the rules name by name.
  refine ⟨h.cwd, by rw [Disk.isFolder, hlookup'], ?_, ?_, fun path hpath => (hforth path hpath).2⟩
  · refine selectFiles_congr d d' hd hd' h.cwd root _ _ hlookup hlookup' _ _ ?_ ?_
    · intro ns hns hmem
      refine ⟨?_, (hforth _ (List.mem_append_left _ hmem)).1⟩
      rw [d.mem_trails_iff place _ he hat] at hns
      rcases hns with ⟨hne, x, hx, hfolder⟩
      refine (d'.mem_trails_iff place _ he' hat' ns).mpr ⟨hne, x, ?_, hfolder⟩
      refine (h.alike _ x hx).eq fun entries heq => ?_
      rw [Option.some.inj heq] at hfolder
      cases hfolder
    · intro ns hns hmem
      have hmem := hfiles _ hmem
      refine ⟨?_, isFile_of_mem_lookedAt d hd root c _ (List.mem_append_left _ hmem)⟩
      -- The path is that of a trail on the smaller disk, and there is only one.
      rw [selectFiles_eq d hd root _ hlookup] at hmem
      rcases List.mem_map.mp hmem with ⟨ms, hms, heq⟩
      have hms := List.mem_of_mem_filter hms
      rw [← joinAll_injective root he he' ms ns hms hns heq]
      exact hms
  · have hfolder := customFolder_ne_empty root c (ne_empty_of_isFolder d root hroot)
    refine customRuleFiles_congr d d' hd hd' _ hfolder
      (fun path hpath => (hforth path (List.mem_append_right _ hpath)).1) fun path hpath => ?_
    exact isFile_of_mem_lookedAt d hd root c path (List.mem_append_right _ (hrules path hpath))

/-! ## What such scans find -/

/-- The log is written to by an operation, and not read. -/
def LogFree {α : Type} (x : Attempt α) : Prop :=
  ∀ log log', (x.run.run log).1 = (x.run.run log').1

theorem LogFree.bind {α β : Type} {x : Attempt α} {f : α → Attempt β} (hx : LogFree x)
    (hf : ∀ a, LogFree (f a)) : LogFree (x >>= f) := by
  intro log log'
  have heq := hx log log'
  rw [run_bind_eq, run_bind_eq]
  rcases hrun : x.run.run log with ⟨result, more⟩
  rcases hrun' : x.run.run log' with ⟨result', more'⟩
  rw [hrun, hrun'] at heq
  -- The results are the same so far, and the logs may differ.
  change result = result' at heq
  subst heq
  cases result with
  | ok a => exact hf a more more'
  | error e => rfl

theorem logFree_keepRules (skipped : String → Failure → Event)
    (files : List (String × Except Failure Rule)) : LogFree (keepRules skipped files) := by
  intro log log'
  rw [run_keepRules, run_keepRules]

theorem logFree_allRules (p : Package) (d : Disk) (folder : String) :
    LogFree (allRules p d (some folder)) := by
  have hown : LogFree p.rules := by
    cases p with
    | unavailable name t => exact fun _ _ => rfl
    | files rules => exact logFree_keepRules _ rules
  have hcustom : LogFree (customRules d folder) := logFree_keepRules _ _
  exact hown.bind fun _ => hcustom.bind fun _ _ _ => rfl

theorem logFree_resolveRules (p : Package) (d : Disk) (root : String) (c : Config) :
    LogFree (resolveRules p d root c) :=
  (logFree_allRules p d (customFolder root c)).bind fun _ _ _ => rfl

/-- The rules that apply are those that are loaded, whatever has been told before, and that the
    configuration lets through. -/
theorem exists_of_resolveRules (p : Package) (d : Disk) (root : String) (c : Config) (log : Log)
    (rules : List Rule) (h : ((resolveRules p d root c).run.run log).1 = .ok rules) :
    ∃ every, (∀ other, ((allRules p d (some (customFolder root c))).run.run other).1 = .ok every) ∧
      rules = filterRules c every := by
  have hrun : (resolveRules p d root c).run.run log =
      (.ok rules, ((resolveRules p d root c).run.run log).2) := Prod.ext h rfl
  rcases exists_of_run_bind _ _ log _ rules hrun with ⟨every, log', hevery, hfilter⟩
  rw [run_pure, Prod.mk.injEq, Except.ok.injEq] at hfilter
  refine ⟨every, fun other => ?_, hfilter.1.symm⟩
  rw [logFree_allRules p d _ other log, hevery]

/-- The rules that apply are the same on disks that are the same to a scan. -/
theorem resolveRules_of_looksSame (p : Package) (root : String) (c : Config) (d d' : Disk)
    (h : LooksSame root c d d') : resolveRules p d' root c = resolveRules p d root c := by
  have hcustom : customRules d' (customFolder root c) = customRules d (customFolder root c) := by
    rw [customRules, customRules, h.rules]
    refine congrArg (keepRules .customRuleSkipped) (List.map_congr_left fun path hpath => ?_)
    have hcontent := h.content path (List.mem_append_right _ hpath)
    rw [readRule, readRule, readDocument, readDocument, hcontent]
  rw [resolveRules, resolveRules, allRules, allRules]
  simp only [hcustom]

/-- Scans find the same on disks that are the same to them, whatever they have seen before and
    whenever they run. -/
theorem findings_of_looksSame (p : Package) (root : String) (c : Config) (d d' : Disk)
    (h : LooksSame root c d d') (hroot : d.isFolder root = true) (stopAt stopAt' : StopAt)
    (duration duration' : Int) (s s' t t' : ScanState) (hs : s.matcher.Faithful)
    (hs' : s'.matcher.Faithful) (r r' : ScanResult)
    (hrun : (scan p d root c stopAt duration).run.run s = (.ok r, t))
    (hrun' : (scan p d' root c stopAt' duration').run.run s' = (.ok r', t')) :
    r'.findings = r.findings := by
  rcases run_scan p d root c stopAt duration s hs with ⟨result, _, hscan, _, hresult⟩
  rcases run_scan p d' root c stopAt' duration' s' hs' with ⟨result', _, hscan', _, hresult'⟩
  rw [hrun, Prod.mk.injEq] at hscan
  rw [hrun', Prod.mk.injEq] at hscan'
  rcases hresult hroot r hscan.1.symm with ⟨rules, harvest, hrules, hharvest, heq⟩
  rcases hresult' h.folder r' hscan'.1.symm with ⟨rules', harvest', hrules', hharvest', heq'⟩
  rw [resolveRules_of_looksSame p root c d d' h, logFree_resolveRules p d root c _ s.log, hrules,
    Except.ok.injEq] at hrules'
  subst hrules'
  rw [heq, heq']
  dsimp only
  rw [findings_of_harvestOf d root rules _ harvest hharvest,
    findings_of_harvestOf d' root rules _ harvest' hharvest', h.files]
  refine congrArg assignFingerprints (List.flatMap_congr fun path hpath => ?_)
  rw [foundAt, foundAt, fileResult, fileResult, relativeTo_congr d d' h.cwd, Source.read,
    Source.read, h.content path (List.mem_append_left _ hpath)]

end CodeAudit
