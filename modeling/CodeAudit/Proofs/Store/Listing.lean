import CodeAudit.Proofs.Sorting
import CodeAudit.Proofs.Store.Archive

/-!
# Listing Saved Reports

What is read back of an archive.

The names of the folder are listed in order, those of reports are picked out, and the reports
are read one by one. Names of reports are exactly those that the archive tells about, so the
files that are read are those of the reports that were saved, each of them once. What order
they are read in depends on how the names are sorted, and nothing is said about it here: the
list of all reports is sorted by time, and the search for an identifier finds some report that
has it.

## Theorems

* `ReportStore.exists_listed`: The files that are read are those of the saved reports.
* `ReportStore.readReports_eq`, `ReportStore.findReport_eq`: Reading files of reports.
* `ReportStore.archive_of_saves`: No report that was saved is lost.
-/

namespace CodeAudit

/-- A permutation of the images is the images of a permutation. -/
theorem exists_perm_of_map {α β : Type} (f : α → β) (xs : List α) (ys : List β)
    (h : ys.Perm (xs.map f)) : ∃ zs : List α, ys = zs.map f ∧ zs.Perm xs := by
  have hcomp := congrFun (congrFun (List.eq_map_comp_perm f) ys) xs
  exact hcomp.mpr h

namespace ReportStore

theorem endsNoEarlier_iff (a b : Report) : endsNoEarlier a b = true ↔ b.endTime ≤ a.endTime :=
  decide_eq_true_iff

theorem endsNoEarlier_total (a b : Report) :
    endsNoEarlier a b = true ∨ endsNoEarlier b a = true := by
  rw [endsNoEarlier_iff, endsNoEarlier_iff]
  exact Int.le_total b.endTime a.endTime

theorem endsNoEarlier_trans (a b c : Report) (hab : endsNoEarlier a b = true)
    (hbc : endsNoEarlier b c = true) : endsNoEarlier a c = true := by
  rw [endsNoEarlier_iff] at hab hbc ⊢
  exact Int.le_trans hbc hab

/-- Reports are sorted by the time at which they end, the last one first. -/
theorem pairwise_sortBy (rs : List Report) :
    (sortBy endsNoEarlier rs).Pairwise fun a b => b.endTime ≤ a.endTime := by
  have hpairwise := pairwise_sortBy_of endsNoEarlier endsNoEarlier_total endsNoEarlier_trans rs
  exact hpairwise.imp fun {a b} h => (endsNoEarlier_iff a b).mp h

/-! ## Files of reports -/

/-- A folder of reports that is there need not be made. -/
theorem Keeps.holdsFiles {d made : Disk} {root : String} {fs : List (String × List UInt8)}
    (h : Keeps d root made fs) (names : List String) (hnames : d.names (folder root) = .ok names) :
    d.HoldsFiles (folder root) fs := by
  rcases Disk.folder_of_names d _ names hnames with ⟨entries, hlookup⟩
  have hbuild := h.1
  rw [buildFolders_folder d root entries hlookup, Prod.mk.injEq] at hbuild
  rw [hbuild.1]
  exact h.2

/-- A name is one of a report. -/
def isReportName (name : String) : Bool :=
  ".json".toList.isSuffixOf name.toList && name != latestName

theorem isReportName_iff (name : String) :
    isReportName name = true ↔ EndsInJson name ∧ name ≠ latestName := by
  rw [isReportName, Bool.and_eq_true, List.isSuffixOf_iff_suffix, bne_iff_ne]
  exact and_congr_left' ⟨fun ⟨front, h⟩ => ⟨front, h.symm⟩, fun ⟨front, h⟩ => ⟨front, h.symm⟩⟩

theorem reportFiles_of_holdsFiles (d : Disk) (root : String) (fs : List (String × List UInt8))
    (h : d.HoldsFiles (folder root) fs) : reportFiles d root =
      ((sortTexts (fs.map Prod.fst)).filter isReportName).map (Disk.join (folder root)) := by
  rw [reportFiles, h.names_eq]
  rfl

/-- The names of reports in a folder are those of the reports that were saved. -/
theorem Archives.mem_names {ks : List Record} {fs : List (String × List UInt8)}
    (h : Archives ks fs) (name : String) :
    name ∈ (sortTexts (fs.map Prod.fst)).filter isReportName ↔ name ∈ ks.map Record.name := by
  rw [List.mem_filter, sortTexts, mem_sortBy, isReportName_iff]
  have hmem : EndsInJson name → name ≠ latestName →
      (name ∈ fs.map Prod.fst ↔ name ∈ ks.map Record.name) := by
    intro hjson hlatest
    have hlookup := h.files name hjson hlatest
    -- Being among the names is being found under one, and by name the files are those of the
    -- archive.
    rw [← names_of_files, ← not_iff_not, ← Entry.lookup_eq_none_iff_not_mem,
      ← Entry.lookup_eq_none_iff_not_mem, hlookup]
  refine ⟨fun hname => (hmem hname.2.1 hname.2.2).mp hname.1, fun hname => ?_⟩
  rcases List.mem_map.mp hname with ⟨k, _, heq⟩
  have hjson := heq ▸ k.endsInJson
  have hlatest := heq ▸ k.ne_latestName
  exact ⟨(hmem hjson hlatest).mpr hname, hjson, hlatest⟩

/-- The files that are read are those of the reports that were saved. -/
theorem exists_listed (d : Disk) (root : String) (fs : List (String × List UInt8))
    (h : d.HoldsFiles (folder root) fs) (ks : List Record) (harchives : Archives ks fs) :
    ∃ ls : List Record, ls.Perm ks ∧ reportFiles d root = ls.map (Record.path root) := by
  have hsorted : (sortTexts (fs.map Prod.fst)).Nodup :=
    (perm_sortBy _ (fs.map Prod.fst)).nodup_iff.mpr h.nodup
  -- Both lists have each name once and the same names, so one is the other in another order.
  have hperm : ((sortTexts (fs.map Prod.fst)).filter isReportName).Perm (ks.map Record.name) :=
    (List.perm_ext_iff_of_nodup (hsorted.filter isReportName) harchives.names).mpr
      harchives.mem_names
  rcases exists_perm_of_map Record.name ks _ hperm with ⟨ls, hnames, hls⟩
  refine ⟨ls, hls, ?_⟩
  rw [reportFiles_of_holdsFiles d root fs h, hnames, List.map_map]
  rfl

/-- A report that was saved is read from its file. -/
theorem readReport_of_mem (d : Disk) (root : String) (fs : List (String × List UInt8))
    (h : d.HoldsFiles (folder root) fs) (ks : List Record) (harchives : Archives ks fs)
    (k : Record) (hk : k ∈ ks) : d.fileContent (k.path root) = .ok k.content ∧
      readReport d (k.path root) = .ok k.report := by
  have hfile : d.fileContent (k.path root) = .ok k.content :=
    h.fileContent_join k.name k.isName _ (harchives.lookup_of_mem k hk)
  exact ⟨hfile, readReport_of_content d _ k.report k.typed.storable k.form k.written hfile⟩

/-! ## Reading them -/

theorem readReports_eq (d : Disk) (root : String) (ls : List Record)
    (h : ∀ k ∈ ls, readReport d (k.path root) = .ok k.report) :
    readReports d (ls.map (Record.path root)) = return ls.map Record.report := by
  induction ls with
  | nil => rfl
  | cons k ls ih =>
      rw [List.forall_mem_cons] at h
      rw [List.map_cons, readReports, h.1, ih h.2]
      simp only [pure_bind, List.map_cons]

theorem findReport_eq (d : Disk) (root : String) (test : Report → Bool) (ls : List Record)
    (h : ∀ k ∈ ls, readReport d (k.path root) = .ok k.report) :
    findReport d test (ls.map (Record.path root)) =
      return (ls.map Record.report).find? test := by
  induction ls with
  | nil => rfl
  | cons k ls ih =>
      rw [List.forall_mem_cons] at h
      rw [List.map_cons, findReport, h.1, List.map_cons, List.find?_cons]
      by_cases htest : test k.report = true
      · simp only [htest, if_true]
      · rw [Bool.not_eq_true] at htest
        simp only [htest, Bool.false_eq_true, if_false, ih h.2]

/-- After a call the folder of reports is there, with the archive in it. -/
theorem Leaves.exists_holdsFiles {root : String} {d d' : Disk} {ks : List Record}
    (h : Leaves root d ks d') (hne : ks ≠ []) :
    ∃ fs, d'.HoldsFiles (folder root) fs ∧ Archives ks fs := by
  rcases h.kept with ⟨made, fs, hkeeps, harchives, hthere⟩
  exact ⟨fs, hthere hne ▸ hkeeps.2, harchives⟩

/-- The paths that a run of calls gives are all different. -/
theorem Leaves.nodup_paths {root : String} {d d' : Disk} {ks : List Record}
    (h : Leaves root d ks d') : (ks.map (Record.path root)).Nodup := by
  rcases h.kept with ⟨_, _, _, harchives, _⟩
  have hnames := harchives.names
  rw [List.Nodup, List.pairwise_map] at hnames ⊢
  exact hnames.imp fun {k l} hne heq => hne (k.name_of_path root l heq)

/-- What a run of calls leaves is read report by report, in some order. -/
theorem Leaves.exists_read {root : String} {d d' : Disk} {ks : List Record}
    (h : Leaves root d ks d') : ∃ ls : List Record, ls.Perm ks ∧
      reportFiles d' root = ls.map (Record.path root) ∧
      ∀ k ∈ ls, readReport d' (k.path root) = .ok k.report := by
  cases hnames : d'.names (folder root) with
  | ok names =>
      rcases h.kept with ⟨made, fs, hkeeps, harchives, _⟩
      have hfiles := hkeeps.holdsFiles names hnames
      rcases exists_listed d' root fs hfiles ks harchives with ⟨ls, hls, hlisted⟩
      exact ⟨ls, hls, hlisted, fun k hk =>
        (readReport_of_mem d' root fs hfiles ks harchives k (hls.mem_iff.mp hk)).2⟩
  | error e =>
      -- There is no folder of reports as long as no report was saved.
      have hnil : ks = [] := by
        refine Classical.byContradiction fun hne => ?_
        rcases h.exists_holdsFiles hne with ⟨fs, hfiles, _⟩
        rw [hfiles.names_eq] at hnames
        exact nomatch hnames
      refine ⟨[], hnil ▸ List.Perm.refl _, ?_, fun _ hk => absurd hk List.not_mem_nil⟩
      rw [reportFiles, hnames]
      rfl

/-- The last report that was saved is the latest one. -/
theorem Leaves.latest_eq {root : String} {d d' : Disk} {ks : List Record}
    (h : Leaves root d ks d') (k : Record) (hk : ks.getLast? = some k) (log : Log) :
    (latest d' root).run.run log = (.ok (some k.report), log) := by
  -- Some report was saved, so the folder is there.
  have hne := List.ne_nil_of_mem (List.mem_of_getLast? hk)
  rcases h.exists_holdsFiles hne with ⟨fs, hfiles, harchives⟩
  have hlatest : fs.lookup latestName = some k.content := by
    rw [harchives.latest, hk]
    rfl
  refine latest_of_lookup d' root k.report k.typed.storable k.form k.written ?_ log
  rw [latestPath, hfiles.lookup_join latestName isName_latestName, hlatest]
  rfl

/-- If times go up, the report that ends last is the one that was saved last. -/
theorem head?_of_increasing (rs listed : List Report) (hperm : listed.Perm rs)
    (hsorted : listed.Pairwise fun a b => b.endTime ≤ a.endTime)
    (hup : rs.Pairwise fun a b => a.endTime < b.endTime) (r : Report)
    (hlast : rs.getLast? = some r) : listed.head? = some r := by
  rcases List.getLast?_eq_some_iff.mp hlast with ⟨before, heq⟩
  have hmem : r ∈ listed := hperm.mem_iff.mpr (List.mem_of_getLast? hlast)
  cases listed with
  | nil => exact absurd hmem List.not_mem_nil
  | cons first rest =>
      have hfirst := hperm.mem_iff.mp (List.mem_cons_self (a := first) (l := rest))
      rw [heq] at hfirst hup
      rcases List.mem_append.mp hfirst with hbefore | hsame
      · -- An earlier report would end before the last one, which comes behind it.
        have hlt := (List.pairwise_append.mp hup).2.2 first hbefore r List.mem_cons_self
        rcases List.mem_cons.mp hmem with hr | hrest
        · rw [hr] at hlt
          omega
        · have hle := (List.pairwise_cons.mp hsorted).1 r hrest
          omega
      · rw [List.mem_singleton] at hsame
        rw [List.head?_cons, hsame]

/-- No report that was saved is lost: each has its own file that is not written to any more,
    the last one is the latest, all of them are listed, and each is found. -/
theorem archive_of_saves (d made : Disk) (root : String) (h : Keeps d root made [])
    (rs : List Report) (hrs : ∀ r ∈ rs, r.Typed ∧ ∃ form, formOf r = .ok form) :
    ∃ (paths : List String) (d' : Disk) (listed : List Report),
      Filing.outcome (rs.mapM (save root)) d = (.ok paths, d') ∧
      paths.length = rs.length ∧ paths.Nodup ∧
      (∀ (i : Nat) (r : Report), rs[i]? = some r → ∃ number form before searched,
        Filing.outcome ((rs.take i).mapM (save root)) d = (.ok (paths.take i), before) ∧
        Filing.outcome (Filing.makeFolders (folder root)) before = (.ok (), searched) ∧
        SearchEndsAt searched (folder root) r.endTime number ∧
        paths[i]? = some (filePath (folder root) r.endTime number) ∧
        formOf r = .ok form ∧
        d'.fileContent (filePath (folder root) r.endTime number) = .ok (contentOf form)) ∧
      (∀ r, rs.getLast? = some r → ∀ log,
        (latest d' root).run.run log = (.ok (some r), log)) ∧
      (∀ log, (all d' root).run.run log = (.ok listed, log)) ∧
      listed.Perm rs ∧ listed.Pairwise (fun a b => b.endTime ≤ a.endTime) ∧
      (∀ id, ∃ found, (∀ log, (byId d' root id).run.run log = (.ok found, log)) ∧
        (∀ r, found = some r → r ∈ rs ∧ r.id = id) ∧
        (found = none → ∀ r ∈ rs, r.id ≠ id)) ∧
      (rs.Pairwise (fun a b => a.endTime < b.endTime) → rs ≠ [] → ∀ log,
        (latest d' root).run.run log = (.ok listed.head?, log)) := by
  rcases exists_leaves root d made h rs hrs with ⟨ks, d', hks, hleaves, hsearch⟩
  rcases hleaves.exists_read with ⟨ls, hls, hfiles, hread⟩
  have hperm : (ls.map Record.report).Perm rs := hks ▸ hls.map Record.report
  have hsorted := pairwise_sortBy (ls.map Record.report)
  -- The listing sorts what is read, so it has the reports that were saved in another order.
  have hlisted : (sortBy endsNoEarlier (ls.map Record.report)).Perm rs :=
    (perm_sortBy _ _).trans hperm
  have hlatest : ∀ r, rs.getLast? = some r → ∀ log,
      (latest d' root).run.run log = (.ok (some r), log) := by
    intro r hr log
    rw [← hks, List.getLast?_map, Option.map_eq_some_iff] at hr
    rcases hr with ⟨k, hk, heq⟩
    exact heq ▸ hleaves.latest_eq k hk log
  refine ⟨ks.map (Record.path root), d', sortBy endsNoEarlier (ls.map Record.report),
    hks ▸ hleaves.run, ?_, hleaves.nodup_paths, fun i r hr => ?_, hlatest, fun log => ?_,
    hlisted, hsorted, fun id => ?_, fun hup hne log => ?_⟩
  · rw [← hks, List.length_map, List.length_map]
  -- What the call found is what is known of it in the archive, since nothing writes to its file
  -- again.
  · rw [← hks, List.getElem?_map, Option.map_eq_some_iff] at hr
    rcases hr with ⟨k, hk, heq⟩
    rcases hsearch i k hk with ⟨before, searched, hbefore, hmade, hends⟩
    have hmem := List.mem_of_getElem? hk
    rcases hleaves.exists_holdsFiles (List.ne_nil_of_mem hmem) with ⟨fs, hfiles', harchives⟩
    have hrun := hbefore.run
    rw [List.map_take, List.map_take, hks] at hrun
    rw [← heq]
    refine ⟨k.number, k.form, before, searched, hrun, hmade, hends, ?_, k.written,
      (readReport_of_mem d' root fs hfiles' ks harchives k hmem).1⟩
    rw [List.getElem?_map, hk]
    rfl
  · rw [all, hfiles, readReports_eq d' root ls hread, pure_bind]
    rfl
  · refine ⟨(ls.map Record.report).find? fun r => r.id == id, fun log => ?_, fun r hr => ?_,
      fun hnone r hr => ?_⟩
    · rw [byId, hfiles, findReport_eq d' root _ ls hread]
      rfl
    · have hfound := List.find?_some hr
      exact ⟨hperm.mem_iff.mp (List.mem_of_find?_eq_some hr), beq_iff_eq.mp hfound⟩
    · have hnot := List.find?_eq_none.mp hnone r (hperm.mem_iff.mpr hr)
      exact fun heq => hnot (beq_iff_eq.mpr heq)
  · have hlast := List.getLast?_eq_some_getLast hne
    rw [head?_of_increasing rs _ hlisted hsorted hup _ hlast]
    exact hlatest _ hlast log

/-! ## A small archive -/

/-- A disk with a project that has been configured and was never scanned. -/
def configuredDisk : Disk :=
  { root := .folder [("p", .folder [(".securecode", .folder [("config.yaml", .file [])])])],
    cwd := [] }

/-- A report without findings. -/
def emptyReport (now : Int) (number : Nat) : Report :=
  generateReport "/p" "demo" { findings := [] } none now number

/-- Two reports of one second, and one of the second before. -/
def emptyReports : List Report :=
  [emptyReport 2500 7, emptyReport 2100 8, emptyReport 1900 9]

theorem archive_of_saves_small :
    ∃ made, Keeps configuredDisk "/p" made [] ∧
      ∃ paths d' listed, Filing.outcome (emptyReports.mapM (save "/p")) configuredDisk =
          (.ok paths, d') ∧
        paths.length = 3 ∧ paths.Nodup ∧
        (latest d' "/p").run.run [] = (.ok (some (emptyReport 1900 9)), []) ∧
        (all d' "/p").run.run [] = (.ok listed, []) ∧ listed.Perm emptyReports := by
  rcases exists_keeps_of_hidden configuredDisk "/p" [("config.yaml", .file [])] rfl rfl with
    ⟨made, hmade⟩
  have htyped : ∀ now number, (emptyReport now number).Typed := fun now number =>
    Report.typed_generateReport "/p" "demo" { findings := [] } none now number
      (fun _ h => nomatch h)
  have hreports : ∀ r ∈ emptyReports, r.Typed ∧ ∃ form, formOf r = .ok form :=
    List.forall_mem_cons.mpr ⟨⟨htyped 2500 7, _, rfl⟩, List.forall_mem_cons.mpr
      ⟨⟨htyped 2100 8, _, rfl⟩, List.forall_mem_cons.mpr
        ⟨⟨htyped 1900 9, _, rfl⟩, fun _ hr => absurd hr List.not_mem_nil⟩⟩⟩
  rcases archive_of_saves configuredDisk made "/p" hmade emptyReports hreports with
    ⟨paths, d', listed, hrun, hlength, hnodup, _, hlatest, hall, hperm, _⟩
  exact ⟨made, hmade, paths, d', listed, hrun, hlength, hnodup, hlatest _ rfl [], hall [], hperm⟩

end ReportStore

end CodeAudit
