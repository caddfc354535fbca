import CodeAudit.Proofs.Store.Added
import CodeAudit.Proofs.Store.Unreadable

/-!
# What Readers See

When two disks show the same reports.

The reports of a project are read from files of one folder, and from those only whose names end as
the name of a report does. So nothing else has to be known of two disks to tell that the same is
read from them: these names are the same, and the same bytes are under them. `Shows` says so, and
leaves room for one name that is on the second disk only. The report of the new file is then among
the others when all are listed, and what is read of the others does not depend on it.

What is under a name need not be a file, and there may be no folder of reports at all. The mistakes
that are met then may be different ones on the two disks, which no reader tells apart.

Two disks that differ in files of one folder show the same if the places they differ at are those of
temporary names. `shows_of_rewrites` is how the steps of saving a report come to be seen, or not.

## Main definitions

* `ReportStore.SameFile`: A path leads to the same bytes on two disks, or to no file on both.
* `ReportStore.reportNames`: The names of reports in their folder.
* `ReportStore.Shows`: What is seen on two disks differs in one report at most.

## Theorems

* `ReportStore.latest_of_shows`: The latest report is the same.
* `ReportStore.all_of_shows`: The reports are the same, with at most one more.
* `ReportStore.shows_of_rewrites`: Temporary files are not seen.
-/

namespace CodeAudit

namespace ReportStore

/-! ## One file -/

/-- A path leads to the same bytes on two disks, or to no file on both. -/
def SameFile (d d' : Disk) (path : String) : Prop :=
  ∀ content, d.fileContent path = .ok content ↔ d'.fileContent path = .ok content

theorem SameFile.refl (d : Disk) (path : String) : SameFile d d path :=
  fun _ => Iff.rfl

theorem SameFile.trans {d d' d'' : Disk} {path : String} (h : SameFile d d' path)
    (h' : SameFile d' d'' path) : SameFile d d'' path :=
  fun content => (h content).trans (h' content)

theorem fileContent_eq_ok_iff (d : Disk) (path : String) (content : List UInt8) :
    d.fileContent path = .ok content ↔ d.lookup path = .ok (.file content) := by
  -- There is a file, or something else, or nothing at all.
  rw [Disk.fileContent]
  split
  · rename_i old hlookup
    rw [hlookup, Except.ok.injEq, Except.ok.injEq, Entry.file.injEq]
  · rename_i e hnot hlookup
    rw [hlookup, Except.ok.injEq]
    exact iff_of_false (fun heq => by cases heq) fun heq => hnot content (heq ▸ rfl)
  · rename_i e hlookup
    rw [hlookup]
    exact iff_of_false (fun heq => by cases heq) fun heq => by cases heq

theorem isFile_iff (d : Disk) (path : String) :
    d.isFile path = true ↔ ∃ content, d.fileContent path = .ok content := by
  refine ⟨fun h => ?_, fun ⟨content, h⟩ => ?_⟩
  · rcases d.exists_of_isFile path h with ⟨content, hlookup⟩
    exact ⟨content, (fileContent_eq_ok_iff d path content).mpr hlookup⟩
  · rw [Disk.isFile, (fileContent_eq_ok_iff d path content).mp h]

/-- Where there is no file, nothing is read. -/
theorem readReport_of_error (d : Disk) (path : String) (e : FileError)
    (h : d.fileContent path = .error e) : readReport d path = .error (.file path e) := by
  rw [readReport, readDocument, h]
  rfl

namespace SameFile

variable {d d' : Disk} {path : String}

theorem isFile (h : SameFile d d' path) : d'.isFile path = d.isFile path := by
  rw [Bool.eq_iff_iff, isFile_iff, isFile_iff]
  exact exists_congr fun content => (h content).symm

theorem readReport_eq (h : SameFile d d' path) (hfile : d.isFile path = true) :
    readReport d' path = readReport d path := by
  rcases (isFile_iff d path).mp hfile with ⟨content, hcontent⟩
  rw [readReport, readReport, readDocument, readDocument, hcontent, (h content).mp hcontent]

/-- The same report is read, or it is the same that ends the reading. -/
theorem reads (h : SameFile d d' path) :
    reportAt? d' path = reportAt? d path ∧ endsReading d' path = endsReading d path := by
  rw [reportAt?, reportAt?, endsReading, endsReading]
  by_cases hfile : d.isFile path = true
  · rw [h.readReport_eq hfile]
    exact ⟨rfl, rfl⟩
  · -- The mistakes may be different ones, but none of them ends the reading.
    have hnone : ∀ disk : Disk, ¬ disk.isFile path = true →
        ∃ e, disk.fileContent path = .error e := by
      intro disk hnot
      cases hcontent : disk.fileContent path with
      | ok content => exact absurd ((isFile_iff disk path).mpr ⟨content, hcontent⟩) hnot
      | error e => exact ⟨e, rfl⟩
    rcases hnone d hfile with ⟨e, he⟩
    rcases hnone d' (h.isFile ▸ hfile) with ⟨e', he'⟩
    rw [readReport_of_error d path e he, readReport_of_error d' path e' he']
    exact ⟨rfl, rfl⟩

end SameFile

/-! ## The names of reports -/

/-- The names of reports in their folder, in order. -/
def reportNames (d : Disk) (root : String) : List String :=
  match d.names (folder root) with
  | .ok names => names.filter isReportName
  | .error _ => []

theorem reportFiles_eq (d : Disk) (root : String) :
    reportFiles d root = (reportNames d root).map (Disk.join (folder root)) := by
  rw [reportFiles, reportNames]
  cases d.names (folder root) with
  | error e => rfl
  | ok names => rfl

theorem pairwise_reportNames (d : Disk) (hd : d.Proper) (root : String) :
    (reportNames d root).Pairwise fun a b => a ≤ b ∧ a ≠ b := by
  rw [reportNames]
  cases hnames : d.names (folder root) with
  | error e => exact .nil
  | ok listed => exact (hd.names _ listed hnames).1.filter _

theorem isName_of_mem_reportNames (d : Disk) (hd : d.Proper) (root : String) (n : String)
    (h : n ∈ reportNames d root) : Path.IsName n.toList ∧ EndsInJson n ∧ n ≠ latestName := by
  rw [reportNames] at h
  cases hnames : d.names (folder root) with
  | error e =>
      rw [hnames] at h
      cases h
  | ok listed =>
      simp only [hnames, List.mem_filter] at h
      exact ⟨(hd.names _ listed hnames).2 n h.1, (isReportName_iff n).mp h.2⟩

theorem names_of_locate (d : Disk) (path : String) (place : Place)
    (entries : List (String × Entry)) (hplace : d.locate true path = .ok place)
    (hat : d.at? place = some (.folder entries)) :
    d.names path = .ok (sortTexts (entries.map Prod.fst)) := by
  rw [Disk.names, Disk.lookup_of_locate d path place hplace, hat]

/-- A name of a report is one under which something is. -/
theorem mem_reportNames_iff (d : Disk) (root : String) (place : Place)
    (entries : List (String × Entry)) (hplace : d.locate true (folder root) = .ok place)
    (hat : d.at? place = some (.folder entries)) (n : String) :
    n ∈ reportNames d root ↔ (EndsInJson n ∧ n ≠ latestName) ∧ d.at? (n :: place) ≠ none := by
  rw [reportNames, names_of_locate d _ place entries hplace hat]
  -- A listing has the names of the folder sorted, which does not matter for what is among them.
  simp only [List.mem_filter, isReportName_iff, sortTexts, mem_sortBy]
  rw [Disk.at?_cons d place entries hat, and_comm]
  refine and_congr_right fun _ => ?_
  exact (not_iff_comm.mp (Entry.lookup_eq_none_iff_not_mem n entries).symm).symm

/-! ## What is seen -/

/-- What is seen of the reports of a project on two disks is the same, but for one that is new. -/
structure Shows (root : String) (new : Option String) (d d' : Disk) : Prop where
  files : ∀ n, Path.IsName n.toList → EndsInJson n → new ≠ some n →
    SameFile d d' (Disk.join (folder root) n)
  names : ∃ front back, reportNames d root = front ++ back ∧
    reportNames d' root = front ++ new.toList ++ back
  fresh : ∀ n, new = some n → n ≠ latestName ∧ n ∉ reportNames d root ∧
    ∀ content, d.fileContent (Disk.join (folder root) n) ≠ .ok content

namespace Shows

variable {root : String} {new : Option String} {d d' d'' : Disk}

theorem refl (root : String) (d : Disk) : Shows root none d d := by
  refine ⟨fun n _ _ _ => .refl d _, ⟨reportNames d root, [], ?_, ?_⟩, fun n hn => by cases hn⟩
  · rw [List.append_nil]
  · rw [Option.toList_none, List.append_nil, List.append_nil]

/-- If nothing is new, the names are the same. -/
theorem reportNames_eq (h : Shows root none d d') : reportNames d' root = reportNames d root := by
  rcases h.names with ⟨front, back, hnames, hnames'⟩
  rw [hnames', hnames, Option.toList_none, List.append_nil]

/-- What is new is seen from a disk on which the same is seen. -/
theorem trans (h : Shows root none d d') (h' : Shows root new d' d'') (hjson : ∀ n, new = some n →
    Path.IsName n.toList ∧ EndsInJson n) : Shows root new d d'' := by
  refine ⟨fun n hn hends hnew => ?_, h.reportNames_eq ▸ h'.names, fun n hn => ?_⟩
  · exact (h.files n hn hends (fun heq => by cases heq)).trans (h'.files n hn hends hnew)
  · rcases hjson n hn with ⟨hname, hends⟩
    -- The new name is new on the first disk as well, since the names and the files are the same
    -- there.
    rcases h'.fresh n hn with ⟨hlatest, hmem, hfile⟩
    refine ⟨hlatest, h.reportNames_eq ▸ hmem, fun content hcontent => hfile content ?_⟩
    exact (h.files n hname hends (fun heq => by cases heq) content).mp hcontent

/-- What is new is seen on a disk on which the same is seen. -/
theorem trans_none (h : Shows root new d d') (h' : Shows root none d' d'') :
    Shows root new d d'' := by
  refine ⟨fun n hn hends hnew => ?_, h'.reportNames_eq.symm ▸ h.names, h.fresh⟩
  exact (h.files n hn hends hnew).trans (h'.files n hn hends fun heq => by cases heq)

/-- The file of a report that was there has the same bytes. -/
theorem kept (h : Shows root new d d') (n : String) (hn : Path.IsName n.toList)
    (hends : EndsInJson n) (content : List UInt8)
    (hcontent : d.fileContent (Disk.join (folder root) n) = .ok content) :
    d'.fileContent (Disk.join (folder root) n) = .ok content :=
  (h.files n hn hends (fun heq => (h.fresh n heq).2.2 content hcontent) content).mp hcontent

end Shows

theorem endsInJson_latestName : EndsInJson latestName :=
  ⟨"latest-report".toList, rfl⟩

/-- The latest report is the same. -/
theorem latest_of_shows {root : String} {new : Option String} {d d' : Disk}
    (h : Shows root new d d') (log : Log) :
    (latest d' root).run.run log = (latest d root).run.run log := by
  -- What is new has another name than the latest report.
  have hsame : SameFile d d' (latestPath root) :=
    h.files latestName isName_latestName endsInJson_latestName fun heq => (h.fresh _ heq).1 rfl
  rw [run_latest, run_latest, hsame.isFile, hsame.reads.2]
  by_cases hfile : d.isFile (latestPath root) = true
  · rw [if_pos hfile, if_pos hfile, hsame.readReport_eq hfile]
  · rw [if_neg hfile, if_neg hfile]

/-- What is read of the reports that were there is the same. -/
theorem reads_of_mem {root : String} {new : Option String} {d d' : Disk} (hd : d.Proper)
    (h : Shows root new d d') (n : String) (hn : n ∈ reportNames d root) :
    reportAt? d' (Disk.join (folder root) n) = reportAt? d (Disk.join (folder root) n) ∧
      endsReading d' (Disk.join (folder root) n) = endsReading d (Disk.join (folder root) n) := by
  rcases isName_of_mem_reportNames d hd root n hn with ⟨hname, hends, _⟩
  exact (h.files n hname hends fun heq => (h.fresh n heq).2.1 hn).reads

/-- The reports under some names of their folder. -/
def reportsUnder (d : Disk) (root : String) (names : List String) : List Report :=
  names.filterMap fun n => reportAt? d (Disk.join (folder root) n)

/-- Listing all reports is sorting those under the names of reports, unless one of these files
    ends the reading. -/
theorem run_all_names (d : Disk) (root : String) (log : Log) :
    ∃ after, (all d root).run.run log =
      (if (reportNames d root).any fun n => endsReading d (Disk.join (folder root) n) then
        .error (.fault .tooLarge)
      else .ok (sortBy endsNoEarlier (reportsUnder d root (reportNames d root))), after) := by
  refine ⟨log ++ (readFirst d (reportFiles d root)).filterMap (skipNote? d), ?_⟩
  rw [run_all, reportFiles_eq, List.any_map, List.filterMap_map]
  rfl

section

variable {root : String} {new : Option String} {d d' : Disk} (hd : d.Proper)
  (h : Shows root new d d') (r : Report)
  (hr : ∀ n, new = some n → readReport d' (Disk.join (folder root) n) = .ok r)

include hd h hr

/-- If no file ended the reading, none does now. -/
theorem quiet_of_shows
    (hquiet : (reportNames d root).any
      (fun n => endsReading d (Disk.join (folder root) n)) = false) :
    (reportNames d' root).any (fun n => endsReading d' (Disk.join (folder root) n)) = false := by
  rcases h.names with ⟨front, back, hnames, hnames'⟩
  rw [List.any_eq_false] at hquiet ⊢
  intro n hn
  -- A name is one of those from before, or the new one.
  rw [hnames', List.mem_append, List.mem_append, Option.mem_toList, or_right_comm,
    ← List.mem_append, ← hnames] at hn
  rcases hn with hold | hnew
  · rw [(reads_of_mem hd h n hold).2]
    exact hquiet n hold
  · rw [endsReading, hr n hnew]
    exact Bool.false_ne_true

/-- The reports that are read are the same, with at most one more. -/
theorem exists_reportsUnder :
    ∃ front back, reportsUnder d root (reportNames d root) = front ++ back ∧
      reportsUnder d' root (reportNames d' root) =
        front ++ new.toList.map (fun _ => r) ++ back := by
  rcases h.names with ⟨front, back, hnames, hnames'⟩
  have hunder : ∀ names, (∀ n ∈ names, n ∈ front ++ back) →
      reportsUnder d' root names = reportsUnder d root names := fun names hmem =>
    List.filterMap_congr fun n hn => (reads_of_mem hd h n (hnames ▸ hmem n hn)).1
  have hnew : reportsUnder d' root new.toList = new.toList.map fun _ => r := by
    cases new with
    | none => rfl
    | some n =>
        simp only [Option.toList_some, reportsUnder, List.filterMap_cons, reportAt?, hr n rfl,
          List.filterMap_nil, List.map_cons, List.map_nil]
  -- The names are split at the new one, and both parts are read as before.
  refine ⟨reportsUnder d root front, reportsUnder d root back, ?_, ?_⟩
  · rw [hnames, reportsUnder, List.filterMap_append]
    rfl
  · rw [← hnew, ← hunder front fun n hn => List.mem_append_left back hn,
      ← hunder back fun n hn => List.mem_append_right front hn, hnames', reportsUnder,
      List.filterMap_append, List.filterMap_append]
    rfl

/-- The reports that are listed are the same, with at most one more, which stands among the
    others. -/
theorem all_of_shows (log after : Log) (listed : List Report)
    (hall : (all d root).run.run log = (.ok listed, after)) (log' : Log) :
    ∃ listed' after', (all d' root).run.run log' = (.ok listed', after') ∧
      (listed' = listed ∨
        ∃ front back, listed = front ++ back ∧ listed' = front ++ r :: back) := by
  rcases run_all_names d root log with ⟨_, hrun⟩
  rcases run_all_names d' root log' with ⟨after', hrun'⟩
  rw [hall] at hrun
  split at hrun
  -- The listing was given, so no file ended the reading before.
  · cases (Prod.mk.inj hrun).1
  rename_i hquiet
  rw [quiet_of_shows hd h r hr (Bool.eq_false_iff.mpr hquiet), if_neg Bool.false_ne_true] at hrun'
  refine ⟨_, after', hrun', ?_⟩
  rw [Except.ok.inj (Prod.mk.inj hrun).1]
  rcases exists_reportsUnder hd h r hr with ⟨front, back, hold, hnow⟩
  rw [hold, hnow]
  cases new with
  | none => exact Or.inl (by rw [Option.toList_none, List.map_nil, List.append_nil])
  | some n =>
      right
      rw [Option.toList_some, List.map_cons, List.map_nil, List.append_assoc,
        List.singleton_append]
      exact exists_sortBy_among endsNoEarlier endsNoEarlier_total endsNoEarlier_trans r back front

end

/-! ## Files that are rewritten -/

/-- Temporary files are not seen, and a file under a new name is seen as one report more. -/
theorem shows_of_rewrites {root : String} {d d' : Disk} {place : Place} (hd : d.Proper)
    (hd' : d'.Proper) (hplace : d.locate true (folder root) = .ok place)
    (hlinkless : LinklessAt d place) (new : Option String) (places : List Place)
    (hrewrites : Disk.Rewrites places d d')
    (hplaces : ∀ p ∈ places, (∃ n, p = (n ++ ".tmp") :: place) ∨ ∃ n, new = some n ∧ p = n :: place)
    (hnew : ∀ n, new = some n → Path.IsName n.toList ∧ EndsInJson n ∧ n ≠ latestName ∧
      d.at? (n :: place) = none ∧ ∃ content, d'.at? (n :: place) = some (.file content)) :
    Shows root new d d' := by
  rcases hlinkless.folder with ⟨entries, hat⟩
  rcases hrewrites.sameWays.folder place entries hat with ⟨entries', hat'⟩
  have hplace' := hrewrites.locate true _ place hplace
  -- No name of a report is a temporary one, so that under the old names nothing was changed.
  have houtside : ∀ n, EndsInJson n → new ≠ some n → n :: place ∉ places := by
    intro n hends hne hmem
    rcases hplaces _ hmem with ⟨m, heq⟩ | ⟨m, hm, heq⟩
    · exact temporary_not_json m ((List.cons.inj heq).1 ▸ hends)
    · exact hne (hm.trans (congrArg some (List.cons.inj heq).1.symm))
  have hold := mem_reportNames_iff d root place entries hplace hat
  have hnow := mem_reportNames_iff d' root place entries' hplace' hat'
  have hmem : ∀ n, n ∈ reportNames d' root ↔ new = some n ∨ n ∈ reportNames d root := by
    intro n
    rw [hnow, hold]
    -- A new name has a file afterwards. Any other has something under it as before, at a place
    -- that was left alone.
    by_cases hne : new = some n
    · rcases hnew n hne with ⟨_, hends, hlatest, _, content, hcontent⟩
      rw [hcontent]
      exact iff_of_true ⟨⟨hends, hlatest⟩, Option.some_ne_none _⟩ (Or.inl hne)
    · rw [or_iff_right hne]
      refine and_congr_right fun hname => not_congr ?_
      have halike := hrewrites.alike _ (houtside n hname.1 hne)
      refine ⟨fun hnone => ?_, fun hnone => ?_⟩
      · rw [hnone] at halike
        exact halike.symm.eq fun _ heq => by cases heq
      · rw [hnone] at halike
        exact halike.eq fun _ heq => by cases heq
  have hfresh : ∀ n, new = some n → n ∉ reportNames d root := by
    intro n hn hin
    exact ((hold n).mp hin).2 (hnew n hn).2.2.2.1
  have hsorted := pairwise_reportNames d hd root
  have hsorted' := pairwise_reportNames d' hd' root
  refine ⟨fun n hn hends hne content => ?_, ?_, fun n hn => ⟨(hnew n hn).2.2.1, hfresh n hn, ?_⟩⟩
  · have hlocate := hlinkless.locate_join true _ hplace n hn
    have hplain : ∀ p, d.locate true (Disk.join (folder root) n) = .ok p → p ∉ places := by
      intro p hp
      rw [hlocate, Except.ok.injEq] at hp
      exact hp ▸ houtside n hends hne
    rw [fileContent_eq_ok_iff, fileContent_eq_ok_iff]
    refine ⟨fun hfile => hrewrites.lookup_file _ content hfile hplain, fun hfile => ?_⟩
    exact hrewrites.symm.lookup_file _ content hfile fun p hp =>
      hplain p (hrewrites.symm.locate true _ p hp)
  · -- Names come in their order, which leaves nothing to tell but which of them there are.
    cases new with
    | none =>
        refine ⟨reportNames d root, [], (List.append_nil _).symm, ?_⟩
        rw [Option.toList_none, List.append_nil, List.append_nil]
        refine eq_of_mem_iff _ _ hsorted' hsorted fun n => ?_
        rw [hmem n, or_iff_right (Option.some_ne_none n).symm]
    | some n =>
        simp only [Option.toList_some, List.append_assoc, List.singleton_append]
        refine exists_among_of_mem_iff _ _ hsorted hsorted' n (hfresh n rfl) fun m => ?_
        rw [hmem m, Option.some.injEq, eq_comm]
  · intro content hcontent
    rcases hnew n hn with ⟨hname, _, _, hnone, _⟩
    rw [fileContent_eq_ok_iff, Disk.lookup_of_locate d _ _ (hlinkless.locate_join true _ hplace n
      hname), hnone] at hcontent
    cases hcontent

end ReportStore

end CodeAudit
