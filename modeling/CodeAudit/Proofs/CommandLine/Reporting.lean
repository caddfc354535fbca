import CodeAudit.Proofs.CommandLine.Scanning
import CodeAudit.Proofs.Scan.Accounting
import CodeAudit.Proofs.Store.Latest
import CodeAudit.Proofs.Store.Stored

/-!
# Showing a Scan Again

That the command for reports shows what the command for scans has shown.

A scan shows the report it has just made, and the other command the report that it reads. In between
the report was written as JSON, moved to its place and read back. All of it comes back, so what is
shown is the same: findings, counts, the duration, and the state of the frameworks. What a scan
knows beyond its report is which files it could not read, and it adds a row about their number.

The report has to be there, of course. A scan that ends well has saved it, but where links stand at
the names that it writes, the path of the latest report may lead to no file afterwards. That is
the only way in which the second command can fail.

## Main definitions

* `ScanOptions.reported`: What the command for reports is given after a scan.
* `ScanOptions.Makes`: What a scan reports.
* `HasMoreCounts`: What is shown is the same but for rows at the end of the table of counts.

## Theorems

* `exists_of_showReport`: What a scan shows and its report does not.
* `cases_of_runScan`: A scan has made no report, or is a success of each step.
* `report_of_scan`: The report is shown as the scan has shown it.
* `not_report_of_link`: A link at a name that a scan writes can hide its report.
-/

namespace CodeAudit

/-! ## Items -/

/-- What is shown is the same but for rows at the end of the table of counts. -/
def HasMoreCounts (rows : List (List String)) (more less : List Item) : Prop :=
  ∃ before table after, table.title = some "Scan Summary" ∧
    less = before ++ .table table :: after ∧
    more = before ++ .table { table with rows := table.rows ++ rows } :: after

theorem HasMoreCounts.eq_of_nil {more less : List Item} (h : HasMoreCounts [] more less) :
    more = less := by
  rcases h with ⟨before, table, after, _, hless, hmore⟩
  rw [hless, hmore, List.append_nil]

theorem summary_eq (r : Report) (result : Option ScanResult) :
    Show.summary r result = (Show.summaryTable r result >>= fun table =>
      (if r.compliance.isEmpty then .ok [] else Show.compliance r) >>= fun rest =>
        .ok (.line "" :: table :: rest)) := by
  rw [Show.summary]
  split
  · rfl
  · rfl

/-- The counts of a scan are those of its report, and the number of files that it could not
    read. -/
theorem exists_of_summaryTable (r : Report) (result : ScanResult) (item : Item)
    (h : Show.summaryTable r (some result) = .ok item) :
    ∃ table, table.title = some "Scan Summary" ∧
      Show.summaryTable r none = .ok (.table table) ∧
      item = .table { table with rows := table.rows ++ Show.unreadableRows (some result) } := by
  rw [Show.summaryTable] at h ⊢
  -- The duration is computed in the same way for both tables.
  rcases exists_of_bind_ok _ _ _ h with ⟨duration, hduration, h⟩
  rw [hduration, ← Except.ok.inj h]
  refine ⟨_, ?_, rfl, ?_⟩
  · rfl
  · simp [Show.unreadableRows]

theorem exists_of_showReport (r : Report) (result : ScanResult) (verbose showClosed : Bool)
    (out : List Item) (h : showReport r (some result) verbose showClosed = .ok out) :
    ∃ shown, showReport r none verbose showClosed = .ok shown ∧
      HasMoreCounts (Show.unreadableRows (some result)) out shown := by
  rw [showReport, summary_eq] at h ⊢
  -- The steps behind the table of counts do not ask for the result of the scan.
  rcases exists_of_bind_ok _ _ _ h with ⟨counts, hcounts, h⟩
  rcases exists_of_bind_ok _ _ _ hcounts with ⟨item, htable, hcounts⟩
  rcases exists_of_bind_ok _ _ _ hcounts with ⟨rest, hrest, hcounts⟩
  rcases exists_of_summaryTable r result item htable with ⟨table, htitle, hless, hitem⟩
  rw [hless, ok_bind, hrest, ok_bind, ok_bind]
  refine ⟨_, rfl, Show.findings r verbose showClosed ++ [.line ""], table, rest, htitle, ?_, ?_⟩
  · rw [List.append_assoc, List.singleton_append]
  · rw [← Except.ok.inj h, ← Except.ok.inj hcounts, hitem, List.append_assoc,
      List.singleton_append]

/-! ## The command for scans -/

/-- The command for scans makes a report: its folder and its configuration are there, and the scan
    succeeds. -/
def ScanOptions.Makes (o : ScanOptions) (p : Package) (stopAt : StopAt) (clock : Clock) (w : World)
    (r : Report) (s : ScanResult) (w₁ : World) : Prop :=
  w.disk.isFolder o.path = true ∧ ∃ c log, (o.resolve w.disk).run.run w.scan.log = (.ok c, log) ∧
    (executeScan p o.path (projectName w.disk o.path none) c stopAt clock).run.run
      (w.withLog log) = (.ok (r, s), w₁)

/-- The command for scans that ends has made no report and ends with a code that says so, or is a
    success of each of its steps. -/
theorem cases_of_runScan (p : Package) (o : ScanOptions) (verbose : Bool) (stopAt : StopAt)
    (clock : Clock) (w w' : World) (outcome : Outcome)
    (h : (runScan p o verbose stopAt clock).run.run w = (.ok outcome, w')) :
    (outcome.code = 2 ∨ outcome.code = 130) ∧ (∀ r s w₁, ¬o.Makes p stopAt clock w r s w₁) ∨
      ∃ r s w₁ items, o.Makes p stopAt clock w r s w₁ ∧
        outcome.code = (if isSerious r then 1 else 0) ∧
        showReport r (some s) verbose o.showClosed = .ok outcome.out ∧
        (exportIfAsked o.jsonOutput r).run.run w₁ = (.ok items, w') := by
  rw [runScan_eq, run_bind _ _ _ _ _ (run_get w)] at h
  by_cases hroot : w.disk.isFolder o.path = true
  · simp only [hroot, Bool.not_true, Bool.false_eq_true, if_false] at h
    rcases exists_of_run_bind _ _ _ _ _ h with ⟨config, w₁, hconfig, h⟩
    -- With any other failure of the configuration the program would not have ended with a code.
    rw [run_tryConfig] at hconfig
    rcases hrun : (o.resolve w.disk).run.run w.scan.log with ⟨result, log⟩
    rw [hrun] at hconfig
    cases result with
    | ok c =>
        rw [Prod.mk.injEq, Except.ok.injEq] at hconfig
        rw [← hconfig.1, ← hconfig.2] at h
        rcases cases_of_scanWith p _ o verbose stopAt clock c _ w' outcome h with
          ⟨hstopped, hinterrupted⟩ | ⟨r, s, w₂, items, hscan, hcode, hshow, hexport⟩
        · refine Or.inl ⟨Or.inr hstopped, ?_⟩
          rintro r s w₂ ⟨_, c', log', hconfig', hscan⟩
          rw [hrun, Prod.mk.injEq, Except.ok.injEq] at hconfig'
          rw [← hconfig'.1, ← hconfig'.2, hinterrupted] at hscan
          cases (Prod.mk.inj hscan).1
        · exact Or.inr ⟨r, s, w₂, items, ⟨hroot, c, log, hrun, hscan⟩, hcode, hshow, hexport⟩
    | error e =>
        cases e with
        | config why =>
            rw [Prod.mk.injEq, Except.ok.injEq] at hconfig
            rw [← hconfig.1] at h
            have hend := (Prod.mk.inj h).1
            rw [← Except.ok.inj hend]
            refine Or.inl ⟨Or.inl rfl, ?_⟩
            rintro r s w₂ ⟨_, c', log', hconfig', _⟩
            rw [hrun] at hconfig'
            cases (Prod.mk.inj hconfig').1
        | _ => cases (Prod.mk.inj hconfig).1
  · simp only [hroot, Bool.not_false, if_true] at h
    have hend := (Prod.mk.inj h).1
    rw [← Except.ok.inj hend]
    exact Or.inl ⟨Or.inl rfl, fun r s w₁ hmakes => hroot hmakes.1⟩

/-- The command for scans that ends with the code of a report is a success of each of its steps. -/
theorem exists_of_runScan (p : Package) (o : ScanOptions) (verbose : Bool) (stopAt : StopAt)
    (clock : Clock) (w w' : World) (outcome : Outcome)
    (h : (runScan p o verbose stopAt clock).run.run w = (.ok outcome, w'))
    (hcode : outcome.code = 0 ∨ outcome.code = 1) :
    w.disk.isFolder o.path = true ∧ ∃ c log r s w₁ items,
      (o.resolve w.disk).run.run w.scan.log = (.ok c, log) ∧
      (executeScan p o.path (projectName w.disk o.path none) c stopAt clock).run.run
        (w.withLog log) = (.ok (r, s), w₁) ∧
      showReport r (some s) verbose o.showClosed = .ok outcome.out ∧
      (exportIfAsked o.jsonOutput r).run.run w₁ = (.ok items, w') := by
  rcases cases_of_runScan p o verbose stopAt clock w w' outcome h with
    ⟨hmistake, _⟩ | ⟨r, s, w₁, items, ⟨hroot, c, log, hconfig, hscan⟩, _, hshow, hexport⟩
  -- A mistake and a scan that was stopped have codes of their own.
  · omega
  · exact ⟨hroot, c, log, r, s, w₁, items, hconfig, hscan, hshow, hexport⟩

/-! ## The command for reports -/

/-- What the command for reports is given after a scan: the same project, and the same wish to see
    what is closed. -/
def ScanOptions.reported (o : ScanOptions) : ReportOptions :=
  { path := o.path, showClosed := o.showClosed }

/-- The command for reports shows the latest one. -/
theorem run_runReport (o : ReportOptions) (hlatest : o.all = false ∧ given o.id = none)
    (verbose : Bool) (v : World) :
    (runReport o verbose).run.run v =
      match (ReportStore.latest v.disk o.path).run.run v.scan.log with
      | (.ok none, log) =>
        (.ok { code := 1, err := [.line (Show.styled "yellow" "No report found.")] },
          v.withLog log)
      | (.ok (some r), log) =>
        (match showReport r none verbose o.showClosed with
          | .ok out => .ok { code := 0, out }
          | .error e => .error e, v.withLog log)
      | (.error e, log) => (.error e, v.withLog log) := by
  rw [runReport, run_bind _ _ _ _ _ (run_get v)]
  simp only [hlatest.1, Bool.false_eq_true, if_false]
  rw [run_bind_eq, Action.run_ofAttempt, askedReport, hlatest.2]
  rcases (ReportStore.latest v.disk o.path).run.run v.scan.log with ⟨result, log⟩
  cases result with
  | error e => rfl
  | ok found =>
      cases found with
      | none => rfl
      | some r =>
          dsimp only
          cases showReport r none verbose o.showClosed with
          | ok out => rfl
          | error e => rfl

/-! ## One command after the other -/

/-- What a scan of a folder that succeeds tells about files: those that it could not read. -/
theorem failed_of_executeScan (p : Package) (root name : String) (c : Config)
    (stopAt : StopAt) (clock : Clock) (w w' : World) (r : Report) (s : ScanResult)
    (hw : w.scan.matcher.Reached) (hroot : w.disk.isFolder root = true)
    (h : (executeScan p root name c stopAt clock).run.run w = (.ok (r, s), w')) :
    s.failedFiles = (unreadableFiles w.disk root c).map (w.disk.relativeTo root) := by
  rcases exists_of_executeScan p root name c stopAt clock w w' r s hroot h with
    ⟨_, _, _, _, t, t', _, _, ht, hscan, _, _⟩
  rcases accounts_of_scan p w.disk root c stopAt clock.elapsed t t' (ht ▸ hw) s hroot hscan with
    ⟨_, _, _, _, haccounts⟩
  exact haccounts.failed

/-- A scan of a folder that succeeds leaves its report as the latest one, if there is a file of the
    latest report at all; and there is one if no link stands where it writes. -/
theorem latest_of_executeScan (p : Package) (root name : String) (c : Config) (stopAt : StopAt)
    (clock : Clock) (w w' : World) (r : Report) (s : ScanResult) (hd : w.disk.Proper)
    (hroot : w.disk.isFolder root = true)
    (h : (executeScan p root name c stopAt clock).run.run w = (.ok (r, s), w')) :
    r.Storable ∧ ∃ form, ReportStore.formOf r = .ok form ∧
      ReportStore.LatestIs w'.disk root (ReportStore.contentOf form) ∧
      ((∀ path ∈ ReportStore.writes (ReportStore.prepared w.disk root) root clock.now,
        (ReportStore.prepared w.disk root).NoLinkAt path) →
          w'.disk.isFile (ReportStore.latestPath root) = true) := by
  rcases exists_of_executeScan p root name c stopAt clock w w' r s hroot h with
    ⟨previous, number, log, log', _, _, path, hprevious, _, _, hr, hsave⟩
  have hend : r.endTime = clock.now := by
    rw [hr]
    rfl
  -- What was read from the report before can be written again, and so can what is made from it.
  have hstorable : r.Storable := by
    rw [hr]
    refine Report.storable_generateReport _ _ _ _ _ _ fun before hbefore => ?_
    rw [hbefore] at hprevious
    exact ReportStore.keeps_of_latest w.disk root log log' before hprevious
  rcases ReportStore.latestIs_of_save w.disk w'.disk hd root r path hsave with
    ⟨form, hform, hlatest⟩
  refine ⟨hstorable, form, hform, hlatest, fun hlinks => ?_⟩
  rw [← hend] at hlinks
  rcases ReportStore.rewrites_save w.disk w'.disk hd root r path hsave hlinks with
    ⟨_, _, _, _, _, hfile, _⟩
  rw [Disk.isFile, hfile]

/-- The command for reports shows what a scan has shown. If the scan ended with zero or one and its
    report is there, the command that follows it ends with zero and shows the same, but for a row
    of the table of counts about files that could not be read, which is there only after the scan
    and only if there were any. The report is there if no link stands where the scan writes; and if
    it is not there, the command says so and ends with one. -/
theorem report_of_scan (p p' : Package) (o : ScanOptions) (verbose : Bool)
    (stopAt stopAt' : StopAt) (clock clock' : Clock) (w w' v : World) (outcome : Outcome)
    (hd : w.disk.Proper) (hw : w.scan.matcher.Reached)
    (h : (Invocation.run p ⟨verbose, .scan o⟩ stopAt clock).run.run w = (.ok outcome, w'))
    (hcode : outcome.code = 0 ∨ outcome.code = 1) (hv : v.disk = w'.disk) :
    (w'.disk.isFile (ReportStore.latestPath o.path) = true →
      ∃ out v', (Invocation.run p' ⟨verbose, .report o.reported⟩ stopAt' clock').run.run v =
          (.ok { code := 0, out }, v') ∧
        ∃ c log, (o.resolve w.disk).run.run w.scan.log = (.ok c, log) ∧
          (unreadableFiles w.disk o.path c = [] → outcome.out = out) ∧
          (unreadableFiles w.disk o.path c ≠ [] →
            HasMoreCounts [["Unreadable files",
              Show.styled "red" (toString (unreadableFiles w.disk o.path c).length)]]
              outcome.out out)) ∧
    (w'.disk.isFile (ReportStore.latestPath o.path) = false →
      ∃ v', (Invocation.run p' ⟨verbose, .report o.reported⟩ stopAt' clock').run.run v =
        (.ok { code := 1, err := [.line (Show.styled "yellow" "No report found.")] }, v')) ∧
    ((∀ path ∈ ReportStore.writes (ReportStore.prepared w.disk o.path) o.path clock.now,
      (ReportStore.prepared w.disk o.path).NoLinkAt path) →
        w'.disk.isFile (ReportStore.latestPath o.path) = true) := by
  rcases exists_of_runScan p o verbose stopAt clock w w' outcome h hcode with
    ⟨hroot, c, log, r, s, w₁, items, hconfig, hscan, hshow, hexport⟩
  rcases latest_of_executeScan p o.path _ c stopAt clock (w.withLog log) w₁ r s hd hroot hscan
    with ⟨hstorable, form, hform, hlatest, hthere⟩
  -- The report may be written once more, and that makes no difference to the latest one.
  have hlatest' : ReportStore.LatestIs w'.disk o.path (ReportStore.contentOf form) ∧
      (w₁.disk.isFile (ReportStore.latestPath o.path) = true →
        w'.disk.isFile (ReportStore.latestPath o.path) = true) := by
    rcases exists_of_exportIfAsked _ r form hform w₁ w' items hexport with
      ⟨_, hdisk⟩ | ⟨file, _, hwrite⟩
    · rw [hdisk]
      exact ⟨hlatest, id⟩
    · exact hlatest.writeFile file hwrite
  have hreport := run_runReport o.reported ⟨rfl, rfl⟩ verbose v
  refine ⟨fun hfile => ?_, fun hfile => ?_, fun hlinks => hlatest'.2 (hthere hlinks)⟩
  · rcases Disk.exists_of_isFile w'.disk _ hfile with ⟨content, hcontent⟩
    rw [hlatest'.1 content hcontent, ← hv] at hcontent
    have hread : (ReportStore.latest v.disk o.reported.path).run.run v.scan.log =
        (.ok (some r), v.scan.log) :=
      ReportStore.latest_of_lookup v.disk o.path r hstorable form hform hcontent v.scan.log
    rcases exists_of_showReport r s verbose o.showClosed outcome.out hshow with
      ⟨out, hout, hcounts⟩
    have hfailed : s.failedFiles = (unreadableFiles w.disk o.path c).map
        (w.disk.relativeTo o.path) :=
      failed_of_executeScan p o.path _ c stopAt clock (w.withLog log) w₁ r s hw hroot hscan
    have hout' : showReport r none verbose o.reported.showClosed = .ok out := hout
    rw [hread] at hreport
    simp only [hout'] at hreport
    refine ⟨out, _, hreport, c, log, hconfig, fun hnone => ?_, fun hsome => ?_⟩
    · rw [Show.unreadableRows, hfailed, hnone] at hcounts
      exact hcounts.eq_of_nil
    · rw [Show.unreadableRows, hfailed] at hcounts
      simpa [hsome] using hcounts
  · have hnone : v.disk.isFile (ReportStore.latestPath o.reported.path) = false := by
      rw [hv]
      exact hfile
    rw [ReportStore.run_latest, hnone] at hreport
    exact ⟨_, hreport⟩

/-! ## Small projects -/

/-- What is given where a letter is looked for. -/
def letterOptions : ScanOptions :=
  { path := "/p", includes := some ["*.py"], excludes := some [] }

/-- What a command does with a project. -/
def runOn (c : Command) (d : Disk) : Except Failure Outcome × World :=
  (Invocation.run letterPackage ⟨true, c⟩ none ⟨1000, 0⟩).run.run (World.ofDisk d 1000)

/-- A project of two files, of which one is no text. -/
def unreadableProject : Disk where
  root := .folder [("p", .folder [("a.py", .file (Utf8.encode "x".toList)), ("b.py", .file [0])])]
  cwd := []

/-- The two commands show the same, but for a row about the file that is no text. -/
theorem report_of_scan_unreadable : ∃ outcome w' out v',
    runOn (.scan letterOptions) unreadableProject = (.ok outcome, w') ∧ outcome.code = 0 ∧
      runOn (.report letterOptions.reported) w'.disk = (.ok { code := 0, out }, v') ∧
      HasMoreCounts [["Unreadable files", Show.styled "red" "1"]] outcome.out out := by
  have hproper : unreadableProject.Proper := Entry.proper_of_isProper _ (by decide +kernel)
  have hlinks : ∀ path ∈ ReportStore.writes (ReportStore.prepared unreadableProject "/p") "/p"
      1000, (ReportStore.prepared unreadableProject "/p").NoLinkAt path := by decide +kernel
  have hunreadable : unreadableFiles (World.ofDisk unreadableProject 1000).disk letterOptions.path
      (letterOptions.override .standard) = ["/p/b.py"] := by decide +kernel
  rcases exists_run_of_toOption_map (runOn (.scan letterOptions) unreadableProject) Outcome.code 0
    (by decide +kernel) with ⟨outcome, w', hscan, hcode⟩
  rcases report_of_scan letterPackage letterPackage letterOptions true none none ⟨1000, 0⟩
    ⟨1000, 0⟩ (World.ofDisk unreadableProject 1000) w' (World.ofDisk w'.disk 1000) outcome
    hproper .start hscan (.inl hcode) rfl with ⟨hshown, _, hthere⟩
  rcases hshown (hthere hlinks) with ⟨out, v', hreport, c, log, hconfig, _, hmore⟩
  have hresolved : ((letterOptions.resolve unreadableProject).run.run []).1.toOption =
      some (letterOptions.override .standard) := by decide +kernel
  have hc := (congrArg (fun run => run.1.toOption) hconfig).symm.trans hresolved
  rw [Option.some.inj hc, hunreadable] at hmore
  exact ⟨outcome, w', out, v', hscan, hcode, hreport, hmore (List.cons_ne_nil _ _)⟩

/-- A project in which the temporary name of the latest report is a link to its name. -/
def linkedProject : Disk where
  root := .folder [("p", .folder [("a.py", .file (Utf8.encode "x".toList)),
    (".securecode", .folder [("reports", .folder
      [("latest-report.json.tmp", .link "latest-report.json")])])])]
  cwd := []

/-- A link at a name that a scan writes can hide its report. The scan ends with zero, and the
    command that follows it finds no report and ends with one. -/
theorem not_report_of_link : linkedProject.Proper ∧ ∃ outcome w' v',
    runOn (.scan letterOptions) linkedProject = (.ok outcome, w') ∧ outcome.code = 0 ∧
      runOn (.report letterOptions.reported) w'.disk =
        (.ok { code := 1, err := [.line (Show.styled "yellow" "No report found.")] }, v') := by
  have hruns : (runOn (.scan letterOptions) linkedProject).1.toOption.map Outcome.code = some 0 ∧
      (runOn (.report letterOptions.reported)
        (runOn (.scan letterOptions) linkedProject).2.disk).1.toOption.map id =
          some { code := 1, err := [.line (Show.styled "yellow" "No report found.")] } := by
    decide +kernel
  rcases exists_run_of_toOption_map _ Outcome.code 0 hruns.1 with ⟨outcome, w', hscan, hcode⟩
  rw [hscan] at hruns
  rcases exists_run_of_toOption_map _ id _ hruns.2 with ⟨shown, v', hreport, hshown⟩
  rw [id_eq] at hshown
  rw [hshown] at hreport
  exact ⟨Entry.proper_of_isProper _ (by decide +kernel), outcome, w', v', hscan, hcode, hreport⟩

end CodeAudit
