import CodeAudit.Proofs.Disk.Opened
import CodeAudit.Proofs.Store.Shown

/-!
# Saves That Fail

What is left of a report that could not be saved.

A save makes the folder of the reports, writes the file of the report and then that of the latest
one, each under a temporary name first. It can fail at every step: folders cannot be made where a
file is in the way, a temporary name or the name itself may be taken by a folder, and the report may
have no form. What is on the disk then is told by `Stopped`, which has one case for each number of
steps that were done. In no case is it half a report under the name of one. So whoever reads the
reports afterwards meets those that were there, and the new one at most.

That the readers see nothing else depends on the folder of the reports, which may come into view as
it is made. This happens only where the path of the project leads up from a folder that is missing,
and `not_latest_of_detour` is an example.

## Main definitions

* `ReportStore.Linkless`: No link is among the reports of a project.
* `ReportStore.Stopped`: What a save that fails leaves on the disk.

## Theorems

* `ReportStore.stopped_of_save`: A save that fails leaves one of four disks.
* `ReportStore.exists_shows_of_stopped`: On each of them one report more is seen at most.
* `ReportStore.shown_of_failed_save`: A save that fails loses nothing.
-/

namespace CodeAudit

namespace ReportStore

/-! ## The steps of a save -/

/-- What a save that fails can leave of a disk on which the folder of reports is made, as far as it
    can be. -/
inductive Stopped (made : Disk) (root : String) (r : Report) : Disk → Prop
  /-- Nothing was written. -/
  | nothing : Stopped made root r made
  /-- The file of the report is under its temporary name, as far as it was written. -/
  | temporary (bytes : List UInt8) (d' : Disk)
      (hwrite : made.writeFile (unusedPath made (folder root) r.endTime ++ ".tmp") bytes =
        .ok d') : Stopped made root r d'
  /-- The file of the report is in place. -/
  | report (form : Value) (kept : Disk) (hform : formOf r = .ok form)
      (hkeep : Filing.outcome (replaceFile (unusedPath made (folder root) r.endTime)
        (contentOf form)) made = (.ok (), kept)) : Stopped made root r kept
  /-- The file of the report is in place, and that of the latest one is under its temporary
      name. -/
  | latest (form : Value) (kept : Disk) (hform : formOf r = .ok form)
      (hkeep : Filing.outcome (replaceFile (unusedPath made (folder root) r.endTime)
        (contentOf form)) made = (.ok (), kept)) (bytes : List UInt8) (d' : Disk)
      (hwrite : kept.writeFile (latestPath root ++ ".tmp") bytes = .ok d') : Stopped made root r d'

/-- A document that is not put in place is at most under its temporary name. -/
theorem cases_of_replaceDocument (d d' : Disk) (path : String) (form : Value) (e : Failure)
    (h : Filing.outcome (replaceDocument path form) d = (.error e, d')) :
    d' = d ∨ d.writeFile (path ++ ".tmp") (draftOf form) = .ok d' := by
  rw [replaceDocument] at h
  rcases Filing.cases_of_outcome_bind _ _ d d' _ h with ⟨e', hfails, _⟩ | ⟨_, written, hwrite, h⟩
  · exact Or.inl (Filing.eq_of_outcome_run _ _ d d' e' hfails)
  · have hwritten := Filing.ok_of_outcome_run _ _ d written hwrite
    right
    split at h
    · rw [Filing.eq_of_outcome_run _ _ written d' e h]
      exact hwritten
    · rw [← (Prod.mk.inj h).2]
      exact hwritten

/-- A save that fails leaves what its steps have done. -/
theorem stopped_of_save (d d' : Disk) (root : String) (r : Report) (e : Failure)
    (h : Filing.outcome (save root r) d = (.error e, d')) :
    Stopped (prepared d root) root r d' := by
  rcases cases_of_save d d' root r _ h with ⟨_, _, heq⟩ | ⟨form, _, hencode, h⟩
  · exact heq ▸ .nothing
  rw [writeForm] at h
  rcases Filing.cases_of_outcome_bind _ _ _ d' _ h with ⟨e', hfails, _⟩ | ⟨_, kept, hkeep, h⟩
  · rcases cases_of_replaceDocument _ d' _ form e' hfails with heq | hwrite
    · exact heq ▸ .nothing
    · exact .temporary _ d' hwrite
  -- The file of the report is in place, so that the report has a form.
  have hshort := hasShortIntegers_of_replaceDocument _ kept _ form hkeep
  have hform := formOf_of_encode r form hencode hshort
  rw [replaceDocument_eq _ form hshort] at hkeep
  rcases Filing.cases_of_outcome_bind _ _ kept d' _ h with ⟨e', hfails, _⟩ | ⟨_, last, _, h⟩
  · rcases cases_of_replaceDocument kept d' _ form e' hfails with heq | hwrite
    · exact heq ▸ .report form kept hform hkeep
    · exact .latest form kept hform hkeep _ d' hwrite
  · cases (Prod.mk.inj h).1

/-! ## The folder that is made -/

/-- No link is in the folder of the reports of a project. -/
def Linkless (d : Disk) (root : String) : Prop :=
  ∀ entries, d.lookup (folder root) = .ok (.folder entries) →
    ∀ p ∈ entries, ∀ target, p.2 ≠ .link target

theorem prepared_of_isFolder (d : Disk) (root : String) (h : d.isFolder (folder root) = true) :
    prepared d root = d := by
  rcases d.exists_of_isFolder _ h with ⟨entries, hlookup⟩
  rw [prepared, buildFolders_folder d root entries hlookup]

/-- A file is under a name of the folder of the reports. -/
theorem folder_of_fileContent (d : Disk) (root n : String) (hn : Path.IsName n.toList)
    (content : List UInt8) (h : d.fileContent (Disk.join (folder root) n) = .ok content) :
    ∃ entries, d.lookup (folder root) = .ok (.folder entries) ∧ entries ≠ [] := by
  rw [fileContent_eq_ok_iff] at h
  rcases d.folder_above _ (endsInName_folder root).ne_empty n hn _ h with
    ⟨place, entries, e, hplace, hat, he⟩
  refine ⟨entries, by rw [Disk.lookup_of_locate d _ place hplace, hat], ?_⟩
  rintro rfl
  cases he

/-- Where the folder of the reports is empty or missing, none is seen. -/
theorem reports_of_empty (d : Disk) (root : String)
    (h : ∀ entries, d.lookup (folder root) = .ok (.folder entries) → entries = []) :
    reportNames d root = [] ∧ ∀ n, Path.IsName n.toList → ∀ content,
      d.fileContent (Disk.join (folder root) n) ≠ .ok content := by
  refine ⟨?_, fun n hn content hcontent => ?_⟩
  · rw [reportNames]
    cases hnames : d.names (folder root) with
    | error e => rfl
    | ok names =>
        rcases d.folder_of_names _ names hnames with ⟨entries, hlookup⟩
        simp only [Disk.names, hlookup, h entries hlookup, Except.ok.injEq] at hnames
        rw [← hnames]
        rfl
  · rcases folder_of_fileContent d root n hn content hcontent with ⟨entries, hlookup, hne⟩
    exact hne (h entries hlookup)

section

variable (d : Disk) (root : String) (hup : d.UpFromFolders root)

include hup

/-- The folder of the reports is empty if it was missing. -/
theorem empty_of_prepared (hmissing : d.isFolder (folder root) = false)
    (entries : List (String × Entry))
    (h : (prepared d root).lookup (folder root) = .ok (.folder entries)) : entries = [] := by
  have hfolder : d.UpFromFolders (folder root) := by
    rw [folder_eq]
    exact (hup.join _ isName_hidden).join _ isName_reports
  exact Disk.empty_of_buildFolders _ d (folder root) hfolder hmissing entries h

/-- Making the folder of the reports shows no reports. -/
theorem shows_prepared : Shows root none d (prepared d root) := by
  by_cases hfolder : d.isFolder (folder root) = true
  · rw [prepared_of_isFolder d root hfolder]
    exact .refl root d
  · have hbefore : ∀ entries, d.lookup (folder root) = .ok (.folder entries) → entries = [] := by
      intro entries hlookup
      refine absurd ?_ hfolder
      rw [Disk.isFolder, hlookup]
    -- It was missing and is empty, if it is there: no name of a report and no file is in it.
    rcases reports_of_empty d root hbefore with ⟨hnames, hfiles⟩
    rcases reports_of_empty _ root
      (empty_of_prepared d root hup (Bool.eq_false_iff.mpr hfolder)) with ⟨hnames', hfiles'⟩
    refine ⟨fun n hn _ _ content => ?_, ⟨[], [], hnames, hnames'⟩, fun n hn => by cases hn⟩
    exact iff_of_false (hfiles n hn content) (hfiles' n hn content)

/-- No link comes into the folder of the reports when it is made. -/
theorem linkless_prepared (hlinks : Linkless d root) : Linkless (prepared d root) root := by
  by_cases hfolder : d.isFolder (folder root) = true
  · rw [prepared_of_isFolder d root hfolder]
    exact hlinks
  · intro entries hlookup p hp
    rw [empty_of_prepared d root hup (Bool.eq_false_iff.mpr hfolder) entries hlookup] at hp
    cases hp

end

/-! ## What is seen of the steps -/

theorem exists_unusedFrom (d : Disk) (path : String) (endTime : Int) (fuel : Nat) :
    ∀ number, ∃ found, unusedFrom d path endTime fuel number = filePath path endTime found := by
  induction fuel with
  | zero => exact fun number => ⟨number, rfl⟩
  | succ fuel ih =>
      intro number
      rw [unusedFrom]
      split
      · exact ih (number + 1)
      · exact ⟨number, rfl⟩

/-- Where the file of a report can be written under its temporary name, there is a folder, and
    nothing is under the name of the file. -/
theorem exists_place_of_writeFile (d d' : Disk) (root : String) (hlinks : Linkless d root)
    (endTime : Int) (bytes : List UInt8)
    (h : d.writeFile (unusedPath d (folder root) endTime ++ ".tmp") bytes = .ok d') :
    ∃ place number, d.locate true (folder root) = .ok place ∧ LinklessAt d place ∧
      unusedPath d (folder root) endTime =
        Disk.join (folder root) (fileName endTime number) ∧
      d.at? (fileName endTime number :: place) = none := by
  have hends := endsInName_folder root
  -- That the search ends at a free name is not known before there is a folder. But its path is that
  -- of some name in the folder, which has to be there for a file to be written.
  have htried : ∃ number, unusedPath d (folder root) endTime =
      filePath (folder root) endTime number := exists_unusedFrom d _ _ _ 0
  rcases htried with ⟨tried, htried⟩
  have htemporary := isName_temporary_fileName endTime tried
  rw [htried, filePath, join_temporary _ hends _ (isName_fileName endTime tried) htemporary] at h
  rcases Disk.rewrites_writeFile d d' _ bytes h with ⟨target, htarget, _⟩
  rcases d.folder_of_locate_join _ hends.ne_empty _ htemporary target htarget with
    ⟨place, entries, hplace, hat⟩
  have hlinkless : LinklessAt d place := by
    refine linklessAt_of_entries d place entries hat (hlinks entries ?_)
    rw [Disk.lookup_of_locate d _ place hplace, hat]
  rcases exists_unusedPath d _ place hplace hlinkless endTime with ⟨number, hunused, hfree⟩
  exact ⟨place, number, hplace, hlinkless, hunused, hfree⟩

/-- A temporary file is not seen. -/
theorem shows_of_writeFile (d d' : Disk) (hd : d.Proper) (root n : String) (place : Place)
    (hplace : d.locate true (folder root) = .ok place) (hlinkless : LinklessAt d place)
    (hn : Path.IsName n.toList) (htemporary : Path.IsName (n ++ ".tmp").toList)
    (bytes : List UInt8)
    (h : d.writeFile (Disk.join (folder root) n ++ ".tmp") bytes = .ok d') :
    Shows root none d d' := by
  rw [join_temporary _ (endsInName_folder root) n hn htemporary] at h
  rcases Disk.rewrites_writeFile d d' _ bytes h with ⟨target, htarget, hrewrites, _, hproper⟩
  rw [hlinkless.locate_join true _ hplace _ htemporary, Except.ok.injEq] at htarget
  subst htarget
  refine shows_of_rewrites hd (hproper hd) hplace hlinkless none _ hrewrites ?_ fun m hm => by
    cases hm
  exact fun p hp => Or.inl ⟨n, List.mem_singleton.mp hp⟩

/-- The file of a report that is put in place is seen as one report more. -/
theorem exists_shows_of_replaceFile (d kept : Disk) (hd : d.Proper) (root : String)
    (hlinks : Linkless d root) (endTime : Int) (content : List UInt8)
    (h : Filing.outcome (replaceFile (unusedPath d (folder root) endTime) content) d =
      (.ok (), kept)) :
    ∃ place number, Shows root (some (fileName endTime number)) d kept ∧
      kept.fileContent (Disk.join (folder root) (fileName endTime number)) = .ok content ∧
      kept.Proper ∧ kept.locate true (folder root) = .ok place ∧ LinklessAt kept place := by
  rcases exists_of_replaceFile d kept _ _ h with ⟨written, hwrite, _⟩
  rcases exists_place_of_writeFile d written root hlinks endTime content hwrite with
    ⟨place, number, hplace, hlinkless, hunused, hfree⟩
  have hname := isName_fileName endTime number
  rw [hunused] at h
  rcases hlinkless.rewrites_replaceFile hd _ (endsInName_folder root) hplace _ hname
    (isName_temporary_fileName endTime number) content h with ⟨hrewrites, hfile, _, hproper⟩
  have hplace' := hrewrites.locate true _ place hplace
  have hlinkless' := hlinkless.rewrites hrewrites
  refine ⟨place, number, ?_, ?_, hproper, hplace', hlinkless'⟩
  · refine shows_of_rewrites hd hproper hplace hlinkless _ _ hrewrites (fun p hp => ?_) ?_
    · rw [List.mem_pair] at hp
      exact hp.imp (fun heq => ⟨_, heq⟩) fun heq => ⟨_, rfl, heq⟩
    · rintro n hn
      rw [← Option.some.inj hn]
      exact ⟨hname, fileName_endsInJson endTime number, fileName_ne_latestName endTime number,
        hfree, content, hfile⟩
  · rw [fileContent_eq_ok_iff, Disk.lookup_of_locate kept _ _
      (hlinkless'.locate_join true _ hplace' _ hname), hfile]

/-- On a disk that a save that fails leaves, one report more is seen at most, and that is the one
    that was to be saved. -/
theorem exists_shows_of_stopped (made d' : Disk) (hmade : made.Proper) (root : String)
    (hlinks : Linkless made root) (r : Report) (h : Stopped made root r d') :
    ∃ new, Shows root new made d' ∧ ∀ n, new = some n →
      ∃ number form, n = fileName r.endTime number ∧ formOf r = .ok form ∧
        d'.fileContent (Disk.join (folder root) n) = .ok (contentOf form) := by
  cases h with
  | nothing => exact ⟨none, .refl root made, fun n hn => by cases hn⟩
  | temporary bytes _ hwrite =>
      rcases exists_place_of_writeFile made d' root hlinks _ bytes hwrite with
        ⟨place, number, hplace, hlinkless, hunused, _⟩
      rw [hunused] at hwrite
      refine ⟨none, ?_, fun n hn => by cases hn⟩
      exact shows_of_writeFile made d' hmade root _ place hplace hlinkless (isName_fileName _ _)
        (isName_temporary_fileName _ _) bytes hwrite
  | report form _ hform hkeep =>
      rcases exists_shows_of_replaceFile made d' hmade root hlinks _ _ hkeep with
        ⟨_, number, hshows, hfile, _⟩
      refine ⟨some (fileName r.endTime number), hshows, fun n hn => ?_⟩
      rw [← Option.some.inj hn]
      exact ⟨number, form, rfl, hform, hfile⟩
  | latest form kept hform hkeep bytes _ hwrite =>
      rcases exists_shows_of_replaceFile made kept hmade root hlinks _ _ hkeep with
        ⟨place, number, hshows, hfile, hproper, hplace, hlinkless⟩
      have hlater := shows_of_writeFile kept d' hproper root _ place hplace hlinkless
        isName_latestName isName_temporary_latestName bytes hwrite
      -- The report was seen before the second file was begun, which makes no difference.
      refine ⟨some (fileName r.endTime number), hshows.trans_none hlater, fun n hn => ?_⟩
      rw [← Option.some.inj hn]
      refine ⟨number, form, rfl, hform, ?_⟩
      exact hlater.kept _ (isName_fileName _ _) (fileName_endsInJson _ _) _ hfile

/-! ## What a save that fails loses -/

/-- A save that fails loses nothing. The latest report that is read is the one before, every file
    whose name ends as that of a report has the same bytes, and the reports that are listed are
    those before with at most the one that was to be saved among them. -/
theorem shown_of_failed_save (d d' : Disk) (hd : d.Proper) (root : String)
    (hup : d.UpFromFolders root) (hlinks : Linkless d root) (r : Report) (e : Failure)
    (h : Filing.outcome (save root r) d = (.error e, d')) :
    (∀ log, (latest d' root).run.run log = (latest d root).run.run log) ∧
    (∀ n, Path.IsName n.toList → EndsInJson n → ∀ content,
      d.fileContent (Disk.join (folder root) n) = .ok content →
        d'.fileContent (Disk.join (folder root) n) = .ok content) ∧
    (r.Storable → ∀ log log' after listed, (all d root).run.run log = (.ok listed, after) →
      ∃ listed' after', (all d' root).run.run log' = (.ok listed', after') ∧
        (listed' = listed ∨
          ∃ front back, listed = front ++ back ∧ listed' = front ++ r :: back)) := by
  rcases exists_shows_of_stopped (prepared d root) d' (proper_prepared d hd root) root
    (linkless_prepared d root hup hlinks) r (stopped_of_save d d' root r e h) with
    ⟨new, hlater, hnew⟩
  -- Making the folder shows nothing, and what the steps in it have done shows one report at most.
  have hshows : Shows root new d d' := by
    refine (shows_prepared d root hup).trans hlater fun n hn => ?_
    rcases hnew n hn with ⟨number, _, rfl, _⟩
    exact ⟨isName_fileName _ _, fileName_endsInJson _ _⟩
  refine ⟨latest_of_shows hshows, hshows.kept, fun hr log log' after listed hall => ?_⟩
  refine all_of_shows hd hshows r (fun n hn => ?_) log after listed hall log'
  rcases hnew n hn with ⟨_, form, _, hform, hfile⟩
  exact readReport_of_content d' _ r hr form hform hfile

/-! ## A folder in the way -/

/-- What is in the folder of the reports of a project with one report. A folder has the temporary
    name of the latest one. -/
def blockedEntries : List (String × Entry) :=
  let content := Utf8.encode
    "\x7b\"reportId\":\"y\",\"scanStartTime\":1,\"scanEndTime\":2\x7d".toList
  [("latest-report.json", .file content), ("latest-report.json.tmp", .folder []),
    ("report-0.json", .file content)]

/-- The disk of that project. -/
def blockedDisk : Disk where
  root := .folder [("p", .folder [(".securecode", .folder [("reports", .folder blockedEntries)])])]
  cwd := []

/-- A report of the project, which ends in another second. -/
def blockedReport : Report :=
  generateReport "/p" "demo" { findings := [] } none 3000 7

theorem linkless_blockedDisk : Linkless blockedDisk "/p" := by
  intro entries hentries p hp target
  have hlookup : blockedDisk.lookup (folder "/p") = .ok (.folder blockedEntries) := by rfl
  rw [hlookup, Except.ok.injEq, Entry.folder.injEq] at hentries
  rw [← hentries, blockedEntries] at hp
  simp only [List.mem_cons, List.not_mem_nil, or_false] at hp
  rcases hp with rfl | rfl | rfl
  · exact fun heq => by cases heq
  · exact fun heq => by cases heq
  · exact fun heq => by cases heq

/-- The folder lets the save fail after the file of the report is in place. -/
theorem shown_of_failed_save_blocked :
    ∃ e d', Filing.outcome (save "/p" blockedReport) blockedDisk = (.error e, d') ∧
      (latest d' "/p").run.run [] = (latest blockedDisk "/p").run.run [] ∧
      ∃ listed listed' after after', (all blockedDisk "/p").run.run [] = (.ok listed, after) ∧
        (all d' "/p").run.run [] = (.ok listed', after') ∧
        (listed' = listed ∨ ∃ front back, listed = front ++ back ∧
          listed' = front ++ blockedReport :: back) := by
  have hproper : blockedDisk.Proper := Entry.proper_of_isProper _ (by decide +kernel)
  have hfails : (Filing.outcome (save "/p" blockedReport) blockedDisk).1.isOk = false ∧
      ((all blockedDisk "/p").run.run []).1.isOk = true := by decide +kernel
  have hup := blockedDisk.upFromFolders_of_isFolder "/p" (by decide +kernel)
  have hstorable : blockedReport.Storable := (Report.typed_generateReport "/p" "demo"
    { findings := [] } none 3000 7 fun _ heq => nomatch heq).storable
  rcases hsave : Filing.outcome (save "/p" blockedReport) blockedDisk with ⟨saved, d'⟩
  rcases hall : (all blockedDisk "/p").run.run [] with ⟨found, after⟩
  rw [hsave, hall] at hfails
  rcases hfails with ⟨hfails, hreturns⟩
  cases saved with
  | ok path => cases hfails
  | error e =>
      cases found with
      | error _ => cases hreturns
      | ok listed =>
          rcases shown_of_failed_save blockedDisk d' hproper "/p" hup linkless_blockedDisk
            blockedReport e hsave with ⟨hlatest, _, hlisted⟩
          rcases hlisted hstorable [] [] after listed hall with ⟨listed', after', hall', hwhere⟩
          exact ⟨e, d', rfl, hlatest [], listed, listed', after, after', rfl, hall', hwhere⟩

/-- Where the path of the project leads up from a folder that is missing, a report comes into view
    that was not read before. -/
theorem not_latest_of_detour :
    Linkless blockedDisk "/a/../p" ∧
      ((latest blockedDisk "/a/../p").run.run []).1.toOption.map Option.isSome = some false ∧
      ((all blockedDisk "/a/../p").run.run []).1.isOk = true ∧
      (Filing.outcome (save "/a/../p" blockedReport) blockedDisk).1.isOk = false ∧
      ((latest (Filing.outcome (save "/a/../p" blockedReport) blockedDisk).2 "/a/../p").run.run
        []).1.toOption.map Option.isSome = some true := by
  refine ⟨fun entries hentries => ?_, by decide +kernel⟩
  have hmissing : blockedDisk.lookup (folder "/a/../p") = .error .notFound := by rfl
  rw [hmissing] at hentries
  cases hentries

end ReportStore

end CodeAudit
