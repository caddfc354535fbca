import CodeAudit.Proofs.Operation
import CodeAudit.Proofs.Report.Faults
import CodeAudit.Proofs.Store.Listing

/-!
# Unreadable Reports

What becomes of a stored file that holds no report.

Every file in the folder of reports is one of three things: a report, a file that is left out, or
a file that ends the reading. A file that is left out costs only itself, whatever its bytes are.
A file ends the reading only if its document asks for an integer and has an infinite number in it;
then nothing is read at all, the other reports are out of reach, and the next scan fails.

The three ways to read reports are told exactly, for every disk, in terms of what each single file
holds. So the reports that are read do not depend on one another, up to a file that ends the
reading.

## Main definitions

* `ReportStore.endsReading`: A file that ends the reading.
* `ReportStore.reportAt?`: The report of a file.
* `ReportStore.skipNote?`: What is told about a file without a report.

## Theorems

* `ReportStore.readReport_error`: A file without a report is left out, or ends the reading.
* `ReportStore.infinite_of_endsReading`: What ends the reading is an infinite number.
* `ReportStore.run_readReports`, `ReportStore.run_findReport`: Reading files, one by one.
* `ReportStore.reading_stored`: What is read from a folder of any files.
-/

namespace CodeAudit

namespace ReportStore

/-- A file ends the reading of reports: its document has a number that is too large. -/
def endsReading (d : Disk) (path : String) : Bool :=
  match readReport d path with
  | .error (.fault .tooLarge) => true
  | _ => false

/-- The report of a file, if it holds one. -/
def reportAt? (d : Disk) (path : String) : Option Report :=
  match readReport d path with
  | .ok r => some r
  | .error _ => none

/-- What is told about a file that holds no report. -/
def skipNote? (d : Disk) (path : String) : Option Event :=
  match readReport d path with
  | .ok _ => none
  | .error e => some (.reportSkipped path e)

/-! ## One file -/

theorem spoilsReport_of_readDocument (d : Disk) (path : String) (e : Failure)
    (h : readDocument d path = .error e) : e.spoilsReport = true := by
  -- A file that is missing and a file that is no text are both mistakes that spoil no more than
  -- a report.
  unfold readDocument at h
  cases hcontent : d.fileContent path with
  | error e' =>
      rw [hcontent] at h
      exact Except.error.inj h ▸ rfl
  | ok bytes =>
      simp only [hcontent] at h
      cases htext : Utf8.decode? bytes with
      | none =>
          simp only [htext, Except.error.injEq] at h
          exact h ▸ rfl
      | some cs =>
          simp only [htext] at h
          exact nomatch h

/-- A document that is decoded as a report has no other faults than those of a report, and the
    one of a number that is too large. -/
theorem read_error (v : Value) (e : ReportFailure) (h : Report.read v = .error e) :
    (Failure.ofReport e).spoilsReport = true ∨
      (e = .tooLarge ∧ Report.decode v = .error .tooLarge) := by
  unfold Report.read at h
  cases hdecode : Report.decode v with
  | ok r =>
      rw [hdecode] at h
      exact nomatch h
  | error f =>
      rw [hdecode] at h
      -- Of the faults of decoding, one has a failure of its own.
      by_cases hf : f = .tooLarge
      · subst hf
        exact Or.inr ⟨(Except.error.inj h).symm, rfl⟩
      · cases f with
        | tooLarge => exact absurd rfl hf
        | _ => exact Or.inl (Except.error.inj h ▸ rfl)

/-- A file without a report is left out, or has a document with a number that is too large. -/
theorem readReport_error (d : Disk) (path : String) (e : Failure)
    (h : readReport d path = .error e) :
    e.spoilsReport = true ∨ (e = .fault .tooLarge ∧ ∃ cs v, readDocument d path = .ok cs ∧
      Json.read cs = .ok v ∧ Report.decode v = .error .tooLarge) := by
  unfold readReport at h
  cases hdocument : readDocument d path with
  | error e' =>
      rw [hdocument] at h
      exact Or.inl (Except.error.inj h ▸ spoilsReport_of_readDocument d path e' hdocument)
  | ok cs =>
      rw [hdocument, ok_bind] at h
      cases hjson : Json.read cs with
      | error e' =>
          rw [hjson] at h
          exact Or.inl (Except.error.inj h ▸ Json.spoilsReport_of_read cs e' hjson)
      | ok v =>
          rw [hjson, orFailure, ok_bind] at h
          cases hread : Report.read v with
          | ok r =>
              rw [hread] at h
              cases h
          | error e' =>
              rw [hread, orFailure, Except.error.injEq] at h
              rcases read_error v e' hread with hspoils | ⟨he', hdecode⟩
              · exact Or.inl (h ▸ hspoils)
              · exact Or.inr ⟨by rw [← h, he']; rfl, cs, v, rfl, hjson, hdecode⟩

/-- What ends the reading is an infinite number in a document. -/
theorem infinite_of_endsReading (d : Disk) (path : String) (h : endsReading d path = true) :
    readReport d path = .error (.fault .tooLarge) ∧ ∃ cs v, readDocument d path = .ok cs ∧
      Json.read cs = .ok v ∧ ¬ v.Bounded := by
  have hread : readReport d path = .error (.fault .tooLarge) := by
    unfold endsReading at h
    split at h
    · assumption
    · exact nomatch h
  refine ⟨hread, ?_⟩
  -- The failure spoils no report, so the document was read and its decoding is what failed.
  rcases readReport_error d path _ hread with hspoils | ⟨_, cs, v, hdocument, hjson, hdecode⟩
  · exact nomatch hspoils
  · exact ⟨cs, v, hdocument, hjson, fun hbounded => Report.fits_decode v hbounded hdecode⟩

/-- A file holds a report, or is left out, or ends the reading. -/
theorem cases_of_file (d : Disk) (path : String) :
    (∃ r, readReport d path = .ok r ∧ endsReading d path = false ∧ reportAt? d path = some r ∧
      skipNote? d path = none) ∨
    (∃ e, readReport d path = .error e ∧ e.spoilsReport = true ∧ endsReading d path = false ∧
      reportAt? d path = none ∧ skipNote? d path = some (.reportSkipped path e)) ∨
    (readReport d path = .error (.fault .tooLarge) ∧ endsReading d path = true) := by
  unfold endsReading reportAt? skipNote?
  cases hread : readReport d path with
  | ok r => exact Or.inl ⟨r, rfl, rfl, rfl, rfl⟩
  | error e =>
      rcases readReport_error d path e hread with hspoils | ⟨he, _⟩
      · refine Or.inr (Or.inl ⟨e, rfl, hspoils, ?_, rfl, rfl⟩)
        -- The one failure that ends the reading does not spoil a report.
        split
        · rename_i heq
          rw [Except.error.inj heq] at hspoils
          exact nomatch hspoils
        · rfl
      · exact Or.inr (Or.inr ⟨by rw [he], by rw [he]⟩)

/-! ## Several files -/

/-- The files of a list that are read before one ends the reading. -/
def readFirst (d : Disk) (paths : List String) : List String :=
  paths.takeWhile fun path => !endsReading d path

theorem run_readReports (d : Disk) (paths : List String) :
    ∀ log, (readReports d paths).run.run log =
      (if paths.any (endsReading d) then .error (.fault .tooLarge)
        else .ok (paths.filterMap (reportAt? d)),
       log ++ (readFirst d paths).filterMap (skipNote? d)) := by
  induction paths with
  | nil =>
      intro log
      rw [readReports]
      simp only [readFirst, List.takeWhile_nil, List.filterMap_nil, List.append_nil]
      rfl
  | cons path rest ih =>
      intro log
      -- What becomes of the rest depends on this file. It adds a report or a note, or nothing
      -- is read any more.
      rcases cases_of_file d path with ⟨r, hread, hends, hreport, hnote⟩ |
        ⟨e, hread, hspoils, hends, hreport, hnote⟩ | ⟨hread, hends⟩
      · have hfirst : readFirst d (path :: rest) = path :: readFirst d rest := by
          rw [readFirst, List.takeWhile_cons, hends]
          rfl
        rw [readReports, hread, hfirst, List.any_cons, hends, Bool.false_or,
          List.filterMap_cons_some hreport, List.filterMap_cons_none hnote]
        simp only
        rw [run_bind_eq, ih log]
        by_cases hany : rest.any (endsReading d) = true
        · simp only [if_pos hany]
        · simp only [if_neg hany]
          rfl
      · have hfirst : readFirst d (path :: rest) = path :: readFirst d rest := by
          rw [readFirst, List.takeWhile_cons, hends]
          rfl
        rw [readReports, hread, hfirst, List.any_cons, hends, Bool.false_or,
          List.filterMap_cons_none hreport, List.filterMap_cons_some hnote]
        simp only [if_pos hspoils]
        rw [run_bind _ _ log _ () (run_note _ log), ih, List.append_assoc, List.singleton_append]
      · have hfirst : readFirst d (path :: rest) = [] := by
          rw [readFirst, List.takeWhile_cons, hends]
          rfl
        rw [readReports, hread, hfirst, List.any_cons, hends, Bool.true_or, if_pos rfl,
          List.filterMap_nil, List.append_nil]
        rfl

/-- A file ends the search for a report that satisfies a test. -/
def endsSearch (d : Disk) (test : Report → Bool) (path : String) : Bool :=
  endsReading d path || (reportAt? d path).any test

theorem run_findReport (d : Disk) (test : Report → Bool) (paths : List String) :
    ∀ log, (findReport d test paths).run.run log =
      (match paths.find? (endsSearch d test) with
        | none => .ok none
        | some path =>
          if endsReading d path then .error (.fault .tooLarge) else .ok (reportAt? d path),
       log ++ (paths.takeWhile fun path => !endsSearch d test path).filterMap (skipNote? d)) := by
  induction paths with
  | nil =>
      intro log
      rw [findReport]
      simp only [List.takeWhile_nil, List.filterMap_nil, List.append_nil]
      rfl
  | cons path rest ih =>
      intro log
      rcases cases_of_file d path with ⟨r, hread, hends, hreport, hnote⟩ |
        ⟨e, hread, hspoils, hends, hreport, hnote⟩ | ⟨hread, hends⟩
      -- A report that passes the test ends the search, and one that does not is passed by
      -- without a note.
      · have hsearch : endsSearch d test path = test r := by
          rw [endsSearch, hends, hreport]
          rfl
        rw [findReport, hread]
        simp only
        by_cases htest : test r = true
        · rw [htest] at hsearch
          rw [if_pos htest, List.find?_cons_of_pos hsearch, List.takeWhile_cons, hsearch]
          simp only [hends, hreport, Bool.not_true, Bool.false_eq_true, if_false,
            List.filterMap_nil, List.append_nil]
          rfl
        · have hsearch' : ¬ endsSearch d test path = true := by rw [hsearch]; exact htest
          rw [if_neg htest, List.find?_cons_of_neg hsearch', List.takeWhile_cons, ih]
          simp only [hsearch', Bool.not_false, if_true, List.filterMap_cons_none hnote]
      · have hsearch : ¬ endsSearch d test path = true := by
          rw [endsSearch, hends, hreport]
          exact Bool.false_ne_true
        rw [findReport, hread]
        simp only [if_pos hspoils]
        rw [run_bind _ _ log _ () (run_note _ log), ih, List.find?_cons_of_neg hsearch,
          List.takeWhile_cons]
        simp only [hsearch, Bool.not_false, if_true, List.filterMap_cons_some hnote,
          List.append_assoc, List.singleton_append]
      · have hsearch : endsSearch d test path = true := by
          rw [endsSearch, hends, Bool.true_or]
        rw [findReport, hread, List.find?_cons_of_pos hsearch, List.takeWhile_cons, hsearch]
        simp only [hends, Bool.not_true, Bool.false_eq_true, if_false, if_true,
          List.filterMap_nil, List.append_nil]
        rfl

/-! ## The folder of reports -/

theorem run_latest (d : Disk) (root : String) (log : Log) :
    (latest d root).run.run log =
      if d.isFile (latestPath root) then
        if endsReading d (latestPath root) then (.error (.fault .tooLarge), log)
        else match readReport d (latestPath root) with
          | .ok r => (.ok (some r), log)
          | .error e => (.ok none, log ++ [.latestUnreadable (latestPath root) e])
      else (.ok none, log) := by
  unfold latest
  by_cases hfile : d.isFile (latestPath root) = true
  · simp only [hfile, Bool.not_true, Bool.false_eq_true, if_false, if_true]
    -- The three cases of a file are the three outcomes.
    rcases cases_of_file d (latestPath root) with ⟨r, hread, hends, _⟩ |
      ⟨e, hread, hspoils, hends, _⟩ | ⟨hread, hends⟩
    · simp only [hread, hends, Bool.false_eq_true, if_false]
      rfl
    · simp only [hread, hends, hspoils, Bool.false_eq_true, if_false, if_true]
      rfl
    · simp only [hread, hends, if_true]
      rfl
  · simp only [hfile, Bool.not_false, if_true]
    rfl

theorem run_all (d : Disk) (root : String) (log : Log) :
    (all d root).run.run log =
      (if (reportFiles d root).any (endsReading d) then .error (.fault .tooLarge)
        else .ok (sortBy endsNoEarlier ((reportFiles d root).filterMap (reportAt? d))),
       log ++ (readFirst d (reportFiles d root)).filterMap (skipNote? d)) := by
  unfold all
  rw [run_bind_eq, run_readReports]
  by_cases hany : (reportFiles d root).any (endsReading d) = true
  · simp only [if_pos hany]
  · simp only [if_neg hany]
    rfl

theorem mem_reportFiles (d : Disk) (root path : String) :
    path ∈ reportFiles d root ↔ ∃ names name, d.names (folder root) = .ok names ∧ name ∈ names ∧
      EndsInJson name ∧ name ≠ latestName ∧ path = Disk.join (folder root) name := by
  unfold reportFiles
  cases hnames : d.names (folder root) with
  | error e => exact ⟨fun h => absurd h List.not_mem_nil, fun ⟨_, _, heq, _⟩ => nomatch heq⟩
  | ok names =>
      simp only [List.mem_map, List.mem_filter]
      constructor
      · rintro ⟨name, ⟨hmem, hreport⟩, heq⟩
        rcases (isReportName_iff name).mp hreport with ⟨hjson, hlatest⟩
        exact ⟨names, name, rfl, hmem, hjson, hlatest, heq.symm⟩
      · rintro ⟨names', name, hok, hmem, hjson, hlatest, heq⟩
        rw [← Except.ok.inj hok] at hmem
        exact ⟨name, ⟨hmem, (isReportName_iff name).mpr ⟨hjson, hlatest⟩⟩, heq.symm⟩

/-- If the file of the latest report ends the reading, a scan of the project fails and leaves
    the disk as it is. -/
theorem run_executeScan_of_endsReading (p : Package) (root name : String) (c : Config)
    (stopAt : StopAt) (clock : Clock) (w : World) (hroot : w.disk.isFolder root = true)
    (hfile : w.disk.isFile (latestPath root) = true)
    (hends : endsReading w.disk (latestPath root) = true) :
    ∃ scan, (executeScan p root name c stopAt clock).run.run w =
      (.error (.fault .tooLarge), { w with scan }) := by
  have hlatest := run_latest w.disk root (w.scan.log ++ [.scanStarted name root])
  rw [if_pos hfile, if_pos hends] at hlatest
  -- Telling that the scan starts is all that happens before the latest report is read.
  refine ⟨(w.withLog (w.scan.log ++ [.scanStarted name root])).scan, ?_⟩
  unfold executeScan
  rw [run_bind _ _ w _ () (Action.run_tell _ w), run_bind _ _ _ _ _ (run_get _)]
  simp only [World.withLog, hroot, if_true]
  refine run_bind_error _ _ _ _ _ ?_
  rw [Action.run_ofAttempt, hlatest]
  rfl

/-- What is read from a folder of any files. Files without a report are left out, each with one
    note, and the rest is read as if they were not there. Only a file with an infinite number
    ends the reading; a scan then fails as well. -/
theorem reading_stored (d : Disk) (root : String) (log : Log) :
    (latest d root).run.run log =
      (if d.isFile (latestPath root) then
        if endsReading d (latestPath root) then (.error (.fault .tooLarge), log)
        else match readReport d (latestPath root) with
          | .ok r => (.ok (some r), log)
          | .error e => (.ok none, log ++ [.latestUnreadable (latestPath root) e])
      else (.ok none, log)) ∧
    (all d root).run.run log =
      (if (reportFiles d root).any (endsReading d) then .error (.fault .tooLarge)
        else .ok (sortBy endsNoEarlier ((reportFiles d root).filterMap (reportAt? d))),
       log ++ (readFirst d (reportFiles d root)).filterMap (skipNote? d)) ∧
    (∀ id, (byId d root id).run.run log =
      (match (reportFiles d root).find? (endsSearch d fun r => r.id == id) with
        | none => .ok none
        | some path =>
          if endsReading d path then .error (.fault .tooLarge) else .ok (reportAt? d path),
       log ++ ((reportFiles d root).takeWhile fun path =>
        !endsSearch d (fun r => r.id == id) path).filterMap (skipNote? d))) ∧
    (∀ path, path ∈ reportFiles d root ↔
      ∃ names name, d.names (folder root) = .ok names ∧ name ∈ names ∧ EndsInJson name ∧
        name ≠ latestName ∧ path = Disk.join (folder root) name) ∧
    (∀ path, endsReading d path = true → ∃ cs v, readDocument d path = .ok cs ∧
      Json.read cs = .ok v ∧ ¬ v.Bounded) ∧
    (∀ (p : Package) (name : String) (c : Config) (stopAt : StopAt) (clock : Clock) (w : World),
      w.disk = d → d.isFolder root = true → d.isFile (latestPath root) = true →
        endsReading d (latestPath root) = true →
          ∃ scan, (executeScan p root name c stopAt clock).run.run w =
            (.error (.fault .tooLarge), { w with scan })) := by
  refine ⟨run_latest d root log, run_all d root log, fun id => run_findReport d _ _ log,
    mem_reportFiles d root, fun path h => (infinite_of_endsReading d path h).2, ?_⟩
  intro p name c stopAt clock w hw hroot hfile hends
  subst hw
  exact run_executeScan_of_endsReading p root name c stopAt clock w hroot hfile hends

/-! ## A report with an infinite time -/

/-- A project with a good report, and one whose scan began at a time beyond all numbers. -/
def infiniteDisk : Disk :=
  let bad := Utf8.encode
    "\x7b\"reportId\":\"x\",\"scanStartTime\":1e400,\"scanEndTime\":2\x7d".toList
  let good := Utf8.encode "\x7b\"reportId\":\"y\",\"scanStartTime\":1,\"scanEndTime\":2\x7d".toList
  { root := .folder [("p", .folder [(".securecode", .folder [("reports", .folder
      [("latest-report.json", .file bad), ("report-7.json", .file bad),
       ("report-8.json", .file good)])])])], cwd := [] }

/-- One file without a report hides the others, and stops the next scan. -/
theorem not_all_of_infinite :
    (reportAt? infiniteDisk "/p/.securecode/reports/report-8.json").isSome = true ∧
      ((latest infiniteDisk "/p").run.run []).1.isOk = false ∧
      ((all infiniteDisk "/p").run.run []).1.isOk = false ∧
      ((byId infiniteDisk "/p" "y").run.run []).1.isOk = false ∧
      ((executeScan (.files []) "/p" "demo" Config.standard none ⟨0, 0⟩).run.run
        (World.ofDisk infiniteDisk 1000)).1.isOk = false := by
  decide +kernel

end ReportStore

end CodeAudit
