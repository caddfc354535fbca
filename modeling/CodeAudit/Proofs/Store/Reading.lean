import CodeAudit.Proofs.Json.Bytes
import CodeAudit.Proofs.Report.Generated
import CodeAudit.Proofs.Store.Save

/-!
# Reading Saved Reports

That what is read from the file of a report is that report.

A file is read in four steps: its bytes are decoded, its line ends are made equal, the text
is read as JSON, and the document is decoded as a report. Each step undoes one of writing,
and the report comes back in every field.

Reading tells nothing when it succeeds, so the log stays as it is.

## Theorems

* `ReportStore.readReport_of_content`: A report is read from the bytes that were written.
* `ReportStore.latest_of_lookup`: The latest report is read from its file.
* `ReportStore.latest_of_save`: A report that was saved is the latest one.
* `ReportStore.save_then_latest`: A report that is saved and read again is the same.
-/

namespace CodeAudit

namespace ReportStore

/-- A report is read from the bytes that were written. -/
theorem readReport_of_content (d : Disk) (path : String) (r : Report) (h : r.Storable)
    (form : Value) (hform : formOf r = .ok form)
    (hfile : d.fileContent path = .ok (contentOf form)) : readReport d path = .ok r := by
  rcases encode_of_formOf r form hform with ⟨hencode, hshort⟩
  -- Three steps, one for each layer of the file: characters, JSON, records.
  have hplain := r.plain_encode h form hencode
  have hdocument : readDocument d path = .ok (Json.write form) :=
    readDocument_write d path form hplain hfile
  have hvalue := Json.read_write form hplain hshort
  have hdecode : Report.read form = .ok r := by
    rw [Report.read, r.decode_of_encode h form hencode]
  rw [readReport, hdocument, ok_bind, hvalue, orFailure, ok_bind, hdecode]
  rfl

/-- The latest report is read from its file. -/
theorem latest_of_lookup (d : Disk) (root : String) (r : Report) (h : r.Storable)
    (form : Value) (hform : formOf r = .ok form)
    (hlatest : d.lookup (latestPath root) = .ok (.file (contentOf form))) (log : Log) :
    (latest d root).run.run log = (.ok (some r), log) := by
  have hfile : d.isFile (latestPath root) = true := by rw [Disk.isFile, hlatest]
  have hcontent : d.fileContent (latestPath root) = .ok (contentOf form) := by
    rw [Disk.fileContent, hlatest]
  have hread := readReport_of_content d _ r h form hform hcontent
  rw [latest]
  simp only [hfile, Bool.not_true, Bool.false_eq_true, if_false, hread]
  rfl

/-- A report that was saved is the latest one. -/
theorem latest_of_save (d made : Disk) (root : String) (fs : List (String × List UInt8))
    (h : Keeps d root made fs) (r : Report) (htyped : r.Typed) (form : Value)
    (hform : formOf r = .ok form) :
    ∃ path d' fs', Filing.outcome (save root r) d = (.ok path, d') ∧
      d'.HoldsFiles (folder root) fs' ∧
      ∀ log, (latest d' root).run.run log = (.ok (some r), log) := by
  rcases outcome_save d made root fs h r form hform with ⟨number, d', _, hsave, hfiles⟩
  refine ⟨_, d', _, hsave, hfiles, latest_of_lookup d' root r htyped.storable form hform ?_⟩
  rw [latestPath, hfiles.lookup_join latestName isName_latestName,
    lookup_saved_latest r.endTime number (contentOf form) fs]

/-- A report that is saved and read again is the same in every field. If it was generated,
    its summary and its table of frameworks are still those of its findings. -/
theorem save_then_latest (d made : Disk) (root : String) (fs : List (String × List UInt8))
    (h : Keeps d root made fs) :
    (∀ (r : Report) (form : Value), r.Typed → r.encode = .ok form →
      Json.hasShortIntegers form = true →
        ∃ path d', Filing.outcome (save root r) d = (.ok path, d') ∧
          ∀ log, (latest d' root).run.run log = (.ok (some r), log)) ∧
    (∀ (path name : String) (result : ScanResult) (previous : Option Report) (now : Int)
      (number : Nat), (∀ p, previous = some p → p.Typed) →
        ∃ form, (generateReport path name result previous now number).encode = .ok form ∧
          (Json.hasShortIntegers form = true →
            ∃ file d' r,
              Filing.outcome (save root (generateReport path name result previous now number)) d =
                (.ok file, d') ∧
              (∀ log, (latest d' root).run.run log = (.ok (some r), log)) ∧
              r = generateReport path name result previous now number ∧
              r.summary = summarize r.findings ∧
              r.compliance = aggregateCompliance r.findings)) := by
  have hround : ∀ (r : Report) (form : Value), r.Typed → r.encode = .ok form →
      Json.hasShortIntegers form = true →
        ∃ path d', Filing.outcome (save root r) d = (.ok path, d') ∧
          ∀ log, (latest d' root).run.run log = (.ok (some r), log) := by
    intro r form htyped hencode hshort
    have hform : formOf r = .ok form := by
      rw [formOf, hencode]
      simp only [hshort, if_true]
    rcases latest_of_save d made root fs h r htyped form hform with
      ⟨path, d', _, hsave, _, hlatest⟩
    exact ⟨path, d', hsave, hlatest⟩
  -- A generated report is typed, so it is a case of the first part; its summary and its table
  -- are what they are because nothing has changed.
  refine ⟨hround, fun path name result previous now number hprevious => ?_⟩
  rcases Report.exists_encode_generateReport path name result previous now number with
    ⟨form, hencode⟩
  refine ⟨form, hencode, fun hshort => ?_⟩
  have htyped := Report.typed_generateReport path name result previous now number
    (fun p hp => (hprevious p hp).findings)
  rcases hround _ form htyped hencode hshort with ⟨file, d', hsave, hlatest⟩
  exact ⟨file, d', _, hsave, hlatest, rfl, rfl, rfl⟩

/-! ## A small project -/

/-- A disk with a project folder that is empty. -/
def smallDisk : Disk :=
  { root := .folder [("p", .folder [])], cwd := [] }

/-- A finding with a text outside ASCII and a tag. -/
def smallFinding (fingerprint : String) : Finding :=
  { ruleId := "R1", ruleName := "Key", severity := .high, category := .secrets,
    description := "clé", path := "a.py", line := 1, column := 5, snippet := "k = 1",
    matched := "k", compliance := [⟨.gdpr, "A32", ""⟩], quickFix := none, status := none,
    firstDetected := .null, lastDetected := .null, fingerprint }

theorem endsInName_small : Disk.EndsInName "/p" :=
  ⟨['p'], by decide, by decide, by decide, by decide, by decide⟩

theorem exists_keeps_small : ∃ made, Keeps smallDisk "/p" made [] :=
  exists_keeps_of_root smallDisk "/p" endsInName_small [] rfl rfl

theorem save_then_latest_small :
    ∃ made, Keeps smallDisk "/p" made [] ∧
      ∃ form, (generateReport "/p" "demo" { findings := [smallFinding "f"] } none 1500 7).encode =
        .ok form ∧ Json.hasShortIntegers form = true ∧
        ∃ file d', Filing.outcome (save "/p"
          (generateReport "/p" "demo" { findings := [smallFinding "f"] } none 1500 7)) smallDisk =
            (.ok file, d') ∧
          (latest d' "/p").run.run [] = (.ok (some
            (generateReport "/p" "demo" { findings := [smallFinding "f"] } none 1500 7)), []) := by
  rcases exists_keeps_small with ⟨made, hmade⟩
  have htyped := Report.typed_generateReport "/p" "demo" { findings := [smallFinding "f"] } none
    1500 7 (fun _ h => nomatch h)
  have hencode : ∃ form, (generateReport "/p" "demo" { findings := [smallFinding "f"] } none 1500
      7).encode = .ok form ∧ Json.hasShortIntegers form = true := ⟨_, rfl, by rfl⟩
  rcases hencode with ⟨form, hform, hshort⟩
  rcases (save_then_latest smallDisk made "/p" [] hmade).1 _ form htyped hform hshort with
    ⟨file, d', hsave, hlatest⟩
  exact ⟨made, hmade, form, hform, hshort, file, d', hsave, hlatest []⟩

end ReportStore

end CodeAudit
