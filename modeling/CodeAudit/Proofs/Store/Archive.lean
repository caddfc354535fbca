import CodeAudit.Proofs.Store.Reading
import Mathlib.Data.List.Induction

/-!
# The Archive of Reports

What is in the folder of reports after any number of them was saved.

A report that was saved is kept in a file that no later call of `save` writes to: its name is
free when it is chosen, and the only other names that are written are the one of the latest
report and temporary ones. `Archives` says so for all reports of a run at once. It tells what
is under every name that a report could have, and leaves out the temporary names, which are
never read.

A run of calls is taken apart at its end. The calls before the last one leave an archive, and
the last one adds to it, so that what each call finds when it looks for a name is known too.

## Main definitions

* `ReportStore.Record`: A report that was saved, with the number in its name.
* `ReportStore.Archives`: The files of a folder, by the reports that were saved.
* `ReportStore.Leaves`: What a run of calls gives and leaves.

## Theorems

* `ReportStore.archives_saved`: Saving a report adds it to the archive.
* `ReportStore.exists_leaves`: Every run of calls succeeds and leaves an archive.
* `ReportStore.Archives.lookup_of_mem`: A report that was saved is in its file.
-/

namespace CodeAudit

namespace ReportStore

/-- A report that was saved, with its form in a document and the number in the name of its
    file. -/
structure Record where
  report : Report
  number : Nat
  form : Value
  typed : report.Typed
  written : formOf report = .ok form

namespace Record

/-- The name of the file of a report. -/
def name (k : Record) : String :=
  fileName k.report.endTime k.number

/-- The bytes of the file of a report. -/
def content (k : Record) : List UInt8 :=
  contentOf k.form

/-- The path of the file of a report. -/
def path (root : String) (k : Record) : String :=
  filePath (folder root) k.report.endTime k.number

/-- The file of a report with its name. -/
def file (k : Record) : String × List UInt8 :=
  (k.name, k.content)

theorem endsInJson (k : Record) : EndsInJson k.name :=
  fileName_endsInJson k.report.endTime k.number

theorem ne_latestName (k : Record) : k.name ≠ latestName :=
  fileName_ne_latestName k.report.endTime k.number

theorem isName (k : Record) : Path.IsName k.name.toList :=
  isName_fileName k.report.endTime k.number

theorem path_eq (root : String) (k : Record) : k.path root = Disk.join (folder root) k.name := rfl

/-- Different names give different paths. -/
theorem name_of_path (root : String) (k l : Record) (h : k.path root = l.path root) :
    k.name = l.name := by
  have hpath := endsInName_folder root
  have hlist := congrArg String.toList h
  rw [path_eq, path_eq, Disk.join_toList _ hpath _ k.isName,
    Disk.join_toList _ hpath _ l.isName] at hlist
  exact String.toList_inj.mp (List.cons.inj (List.append_cancel_left hlist)).2

end Record

/-- The files of a folder, by the reports that were saved there. Each has its own name and is
    under it, and the last one is the latest report. -/
structure Archives (ks : List Record) (fs : List (String × List UInt8)) : Prop where
  names : (ks.map Record.name).Nodup
  files : ∀ name, EndsInJson name → name ≠ latestName →
    fs.lookup name = (ks.map Record.file).lookup name
  latest : fs.lookup latestName = ks.getLast?.map Record.content

theorem archives_nil : Archives [] [] :=
  ⟨List.nodup_nil, fun _ _ _ => rfl, rfl⟩

theorem names_of_files (ks : List Record) :
    (ks.map Record.file).map Prod.fst = ks.map Record.name := by
  rw [List.map_map]
  rfl

/-- A name that is free is none of a report that was saved. -/
theorem Archives.not_mem_of_lookup {ks : List Record} {fs : List (String × List UInt8)}
    (h : Archives ks fs) (k : Record) (hfree : fs.lookup k.name = none) :
    k.name ∉ ks.map Record.name := by
  rw [h.files k.name k.endsInJson k.ne_latestName, Entry.lookup_eq_none_iff_not_mem,
    names_of_files] at hfree
  exact hfree

/-- Saving a report adds it to the archive. -/
theorem archives_saved (ks : List Record) (fs : List (String × List UInt8))
    (h : Archives ks fs) (k : Record) (hfree : fs.lookup k.name = none) :
    Archives (ks ++ [k]) (saved k.report.endTime k.number k.content fs) := by
  have hnew := h.not_mem_of_lookup k hfree
  -- The names stay different because the new one was free; each file is found under its name,
  -- the new one or one from before; the latest report is the new one.
  refine ⟨?_, fun name hjson hlatest => ?_, ?_⟩
  · rw [List.map_append, List.nodup_append]
    refine ⟨h.names, List.nodup_cons.mpr ⟨List.not_mem_nil, List.nodup_nil⟩, ?_⟩
    intro name hname other hother heq
    rw [List.map_cons, List.map_nil, List.mem_singleton] at hother
    rw [heq, hother] at hname
    exact hnew hname
  · rw [List.map_append, List.lookup_append]
    by_cases hown : name = k.name
    · have hnone : (ks.map Record.file).lookup name = none := by
        rw [Entry.lookup_eq_none_iff_not_mem, names_of_files, hown]
        exact hnew
      rw [hnone, Option.none_or, hown]
      rw [Record.name, lookup_saved_self]
      exact List.lookup_cons_self.symm
    · have hother : ([k].map Record.file).lookup name = none := by
        rw [Entry.lookup_eq_none_iff_not_mem, names_of_files]
        exact fun hmem => hown (List.mem_singleton.mp hmem)
      rw [hother, Option.or_none, ← h.files name hjson hlatest]
      -- The temporary names that are written to do not end as the names of reports do.
      exact lookup_saved_of_ne _ _ _ fs name hown hlatest
        ⟨temporary_ne _ name hjson, temporary_ne _ name hjson⟩
  · rw [lookup_saved_latest, List.getLast?_append, List.getLast?_singleton, Option.some_or]
    rfl

/-- A report that was saved is in its file. -/
theorem Archives.lookup_of_mem {ks : List Record} {fs : List (String × List UInt8)}
    (h : Archives ks fs) (k : Record) (hk : k ∈ ks) : fs.lookup k.name = some k.content := by
  rw [h.files k.name k.endsInJson k.ne_latestName, List.lookup_eq_some_iff]
  -- No report before it has the same name, so it is the first that is found.
  rcases List.append_of_mem hk with ⟨before, behind, heq⟩
  refine ⟨before.map Record.file, behind.map Record.file, ?_, fun p hp => ?_⟩
  · rw [heq, List.map_append, List.map_cons]
    rfl
  · rcases List.mem_map.mp hp with ⟨l, hl, hfile⟩
    have hnames := h.names
    rw [heq, List.map_append, List.nodup_append] at hnames
    rw [← hfile, bne_iff_ne]
    exact (hnames.2.2 l.name (List.mem_map_of_mem hl) k.name List.mem_cons_self).symm

/-! ## Runs of calls -/

/-- A run of calls of `save` that keeps some reports gives their paths, and leaves an
    archive. After the first call the folder of reports is there and is not made any more. -/
structure Leaves (root : String) (d : Disk) (ks : List Record) (d' : Disk) : Prop where
  run : Filing.outcome ((ks.map Record.report).mapM (save root)) d =
    (.ok (ks.map (Record.path root)), d')
  kept : ∃ made fs, Keeps d' root made fs ∧ Archives ks fs ∧ (ks ≠ [] → made = d')

theorem leaves_nil (root : String) (d made : Disk) (h : Keeps d root made []) :
    Leaves root d [] d :=
  ⟨rfl, made, [], h, archives_nil, fun hne => absurd rfl hne⟩

/-- One more call. Its search starts from the disk on which the folder of reports was made,
    and ends at the number of the report. -/
theorem exists_leaves_concat (root : String) (d d' : Disk) (ks : List Record)
    (h : Leaves root d ks d') (r : Report) (htyped : r.Typed) (form : Value)
    (hform : formOf r = .ok form) :
    ∃ k d'' made, k.report = r ∧ Leaves root d (ks ++ [k]) d'' ∧
      Filing.outcome (Filing.makeFolders (folder root)) d' = (.ok (), made) ∧
      SearchEndsAt made (folder root) r.endTime k.number := by
  rcases h.kept with ⟨made, fs, hkeeps, harchives, _⟩
  rcases outcome_save d' made root fs hkeeps r form hform with
    ⟨number, d'', hends, hsave, hfiles⟩
  have hnew := archives_saved ks fs harchives ⟨r, number, form, htyped, hform⟩
    (lookup_of_searchEndsAt made root fs hkeeps.2 r.endTime number hends)
  refine ⟨⟨r, number, form, htyped, hform⟩, d'', made, rfl,
    ⟨?_, d'', _, keeps_of_holdsFiles d'' root _ hfiles, hnew, fun _ => rfl⟩,
    Filing.outcome_makeFolders _ d' made hkeeps.1, hends⟩
  rw [List.map_append, List.mapM_append, Filing.outcome_bind _ _ d d' _ h.run, List.map_cons,
    List.map_nil, List.mapM_cons, bind_assoc, Filing.outcome_bind _ _ d' d'' _ hsave,
    List.map_append]
  rfl

/-- Every run of calls succeeds and leaves an archive, and so does every run of the first of
    them. The search of the next call then ends. -/
theorem exists_leaves (root : String) (d made : Disk) (h : Keeps d root made [])
    (rs : List Report) (hrs : ∀ r ∈ rs, r.Typed ∧ ∃ form, formOf r = .ok form) :
    ∃ ks d', ks.map Record.report = rs ∧ Leaves root d ks d' ∧
      ∀ i k, ks[i]? = some k → ∃ before searched, Leaves root d (ks.take i) before ∧
        Filing.outcome (Filing.makeFolders (folder root)) before = (.ok (), searched) ∧
        SearchEndsAt searched (folder root) k.report.endTime k.number := by
  induction rs using List.reverseRecOn with
  | nil => exact ⟨[], d, rfl, leaves_nil root d made h, fun _ _ hk => nomatch hk⟩
  | append_singleton rs r ih =>
      rw [List.forall_mem_append] at hrs
      rcases ih hrs.1 with ⟨ks, d', hks, hleaves, hbefore⟩
      rcases hrs.2 r List.mem_cons_self with ⟨htyped, form, hform⟩
      rcases exists_leaves_concat root d d' ks hleaves r htyped form hform with
        ⟨k, d'', searched, hk, hnext, hmade, hends⟩
      refine ⟨ks ++ [k], d'', ?_, hnext, fun i l hl => ?_⟩
      · rw [List.map_append, hks, List.map_cons, hk, List.map_nil]
      · -- A call before the last one was made in the shorter run already.
        by_cases hi : i < ks.length
        · rw [List.getElem?_append_left hi] at hl
          rw [List.take_append_of_le_length (Nat.le_of_lt hi)]
          exact hbefore i l hl
        · rw [List.getElem?_append_right (Nat.le_of_not_lt hi)] at hl
          have hlast : i - ks.length = 0 ∧ l = k := by
            cases hrest : i - ks.length with
            | zero =>
                rw [hrest, List.getElem?_cons_zero] at hl
                exact ⟨rfl, (Option.some.inj hl).symm⟩
            | succ j =>
                rw [hrest, List.getElem?_cons_succ] at hl
                exact nomatch hl
          have hlength : i = ks.length := by omega
          rw [hlength, List.take_left, hlast.2, hk]
          exact ⟨d', searched, hleaves, hmade, hends⟩

end ReportStore

end CodeAudit
