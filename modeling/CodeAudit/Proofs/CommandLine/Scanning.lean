import CodeAudit.Proofs.Config.Loading
import CodeAudit.Proofs.Project
import CodeAudit.Proofs.Scan.Locality
import CodeAudit.Proofs.Store.Added

/-!
# What a Scan Changes

What the command for scans leaves on the disk.

Up to the saving of its report a scan writes nothing, and the user can stop it only before that:
the search of the files is stopped, and saving is not. So the command has changed nothing if it
was stopped, as if it had no project to search or no configuration to search with. In every other
case in which it ends with a code the report was saved, and was written once more if the user asked
for that. In a project without links among its reports, and without files that were left under
temporary names, `ReportStore.Adds` tells all of it.

## Main definitions

* `NeverFails`: An operation does not fail in a certain way.
* `Action.Spares`: An operation leaves the disk as it is.
* `Action.StopsClean`: An operation that the user stops does so.
* `ScanOptions.outputPlace`: The place of the file that the user asked for.

## Theorems

* `stopsClean_executeScan`: A scan that the user stops has changed nothing.
* `exists_of_exportIfAsked`: A report is written once more if the user asked for that.
* `cases_of_scanWith`: A scan that ends with a code was stopped or succeeded.
* `disk_of_runScan`: What the command leaves on the disk.
-/

namespace CodeAudit

/-! ## Failures that do not occur -/

section

variable {ε σ α β : Type}

/-- An operation does not fail in a certain way. -/
def NeverFails (e : ε) (x : ExceptT ε (StateM σ) α) : Prop :=
  ∀ s, (x.run.run s).1 ≠ .error e

theorem NeverFails.bind {e : ε} {x : ExceptT ε (StateM σ) α} {f : α → ExceptT ε (StateM σ) β}
    (hx : NeverFails e x) (hf : ∀ a, NeverFails e (f a)) : NeverFails e (x >>= f) := by
  intro s
  have hfirst := hx s
  rw [run_bind_eq]
  rcases hrun : x.run.run s with ⟨result, s'⟩
  rw [hrun] at hfirst
  cases result with
  | ok a => exact hf a s'
  | error e' => exact fun heq => hfirst (congrArg Except.error (Except.error.inj heq))

theorem neverFails_pure (e : ε) (a : α) : NeverFails e (pure a : ExceptT ε (StateM σ) α) :=
  fun _ heq => by cases heq

theorem neverFails_get (e : ε) : NeverFails e (get : ExceptT ε (StateM σ) σ) :=
  fun _ heq => by cases heq

end

namespace Filing

theorem neverFails_run (path : String) (operation : Disk → Except FileError Disk) :
    NeverFails .interrupted (run path operation) := by
  intro d
  rw [run, run_bind _ _ d d d (run_get d)]
  cases operation d with
  | ok d' => exact fun heq => by cases heq
  | error e => exact fun heq => by cases heq

theorem neverFails_makeFolders (path : String) : NeverFails .interrupted (makeFolders path) := by
  intro d
  rw [makeFolders, run_bind _ _ d d d (run_get d)]
  rcases d.buildFolders (path.length + 1) path with ⟨made, mistake⟩
  cases mistake with
  | none => exact fun heq => by cases heq
  | some e => exact fun heq => by cases heq

end Filing

namespace ReportStore

theorem neverFails_replaceDocument (path : String) (form : Value) :
    NeverFails .interrupted (replaceDocument path form) := by
  refine (Filing.neverFails_run _ _).bind fun _ => ?_
  split
  · exact Filing.neverFails_run _ _
  · exact fun _ heq => by cases heq

theorem neverFails_encode (r : Report) :
    NeverFails .interrupted
      (ExceptT.mk (pure (orFailure Failure.fault r.encode)) : Filing Value) := by
  intro d
  change orFailure Failure.fault r.encode ≠ _
  cases r.encode with
  | error f => exact fun heq => by cases heq
  | ok form => exact fun heq => by cases heq

theorem neverFails_freshPath (d : Disk) (folder : String) (endTime : Int) :
    NeverFails .interrupted (ExceptT.mk (pure (freshPath d folder endTime)) : Filing String) := by
  intro d'
  change freshPath d folder endTime ≠ _
  rw [freshPath]
  split
  · exact fun heq => by cases heq
  · exact fun heq => by cases heq

/-- The user does not stop the saving of a report. -/
theorem neverFails_save (root : String) (r : Report) : NeverFails .interrupted (save root r) :=
  (Filing.neverFails_makeFolders _).bind fun _ =>
    (neverFails_encode r).bind fun _ =>
      (neverFails_get _).bind fun _ =>
        (neverFails_freshPath _ _ _).bind fun _ =>
          (neverFails_replaceDocument _ _).bind fun _ =>
            (neverFails_replaceDocument _ _).bind fun _ => neverFails_pure _ _

end ReportStore

/-! ## Operations that write nothing -/

namespace Action

variable {α β : Type}

theorem neverFails_tell (e : Event) : NeverFails .interrupted (tell e) :=
  fun _ heq => by cases heq

theorem neverFails_ofFiling {x : Filing α} (h : NeverFails .interrupted x) :
    NeverFails .interrupted (ofFiling x) :=
  fun w => h w.disk

/-- An operation leaves the disk as it is. -/
def Spares (x : Action α) : Prop :=
  ∀ w, (x.run.run w).2.disk = w.disk

/-- An operation that the user stops leaves the disk as it is. -/
def StopsClean (x : Action α) : Prop :=
  ∀ w w', x.run.run w = (.error .interrupted, w') → w'.disk = w.disk

theorem spares_ofAttempt (x : Attempt α) : Spares (ofAttempt x) := fun _ => rfl

theorem spares_ofScanning (x : Scanning α) : Spares (ofScanning x) := fun _ => rfl

theorem spares_tell (e : Event) : Spares (tell e) := fun _ => rfl

theorem spares_drawNumber : Spares drawNumber := fun _ => rfl

theorem spares_get : Spares (get : Action World) := fun _ => rfl

theorem spares_pure (a : α) : Spares (pure a) := fun _ => rfl

theorem Spares.disk_eq {x : Action α} (h : Spares x) {w w' : World} {result : Except Failure α}
    (hrun : x.run.run w = (result, w')) : w'.disk = w.disk := by
  rw [← h w, hrun]

theorem Spares.stopsClean {x : Action α} (h : Spares x) : StopsClean x :=
  fun _ _ hrun => h.disk_eq hrun

theorem stopsClean_of_neverFails {x : Action α} (h : NeverFails .interrupted x) : StopsClean x :=
  fun w _ hrun => absurd (congrArg Prod.fst hrun) (h w)

/-- Nothing is written before the user stops an operation, if what comes first writes nothing. -/
theorem Spares.stopsClean_bind {x : Action α} {f : α → Action β} (hx : Spares x)
    (hf : ∀ a, StopsClean (f a)) : StopsClean (x >>= f) := by
  intro w w' hrun
  rw [run_bind_eq] at hrun
  rcases hfirst : x.run.run w with ⟨result, w₁⟩
  rw [hfirst] at hrun
  cases result with
  | ok a => rw [hf a w₁ w' hrun, hx.disk_eq hfirst]
  | error e => rw [← (Prod.mk.inj hrun).2, hx.disk_eq hfirst]

end Action

/-! ## Scans that are stopped -/

theorem spares_tellPrevious (previous : Option Report) : (tellPrevious previous).Spares := by
  cases previous with
  | none => exact Action.spares_tell _
  | some r => exact Action.spares_tell _

theorem neverFails_keepReport (root : String) (r : Report) :
    NeverFails .interrupted (keepReport root r) :=
  (Action.neverFails_ofFiling (ReportStore.neverFails_save root r)).bind fun _ =>
    (neverFails_get _).bind fun _ =>
      (Action.neverFails_tell _).bind fun _ => neverFails_pure _ _

/-- A scan that the user stops has changed nothing. -/
theorem stopsClean_executeScan (p : Package) (root name : String) (c : Config) (stopAt : StopAt)
    (clock : Clock) : (executeScan p root name c stopAt clock).StopsClean := by
  -- Up to the saving nothing is written, whatever ends it.
  unfold executeScan
  refine (Action.spares_tell _).stopsClean_bind fun _ => ?_
  refine Action.spares_get.stopsClean_bind fun w => ?_
  dsimp only
  split
  · refine (Action.spares_ofAttempt _).stopsClean_bind fun previous => ?_
    refine (spares_tellPrevious previous).stopsClean_bind fun _ => ?_
    refine (Action.spares_ofScanning _).stopsClean_bind fun result => ?_
    refine (Action.spares_tell _).stopsClean_bind fun _ => ?_
    refine Action.spares_drawNumber.stopsClean_bind fun number => ?_
    -- From here on the report is saved, and that cannot be stopped.
    refine Action.stopsClean_of_neverFails ?_
    exact (neverFails_keepReport root _).bind fun _ =>
      (Action.neverFails_tell _).bind fun _ => neverFails_pure _ _
  · refine (Action.spares_tell _).stopsClean_bind fun _ => ?_
    refine Action.spares_drawNumber.stopsClean_bind fun number => ?_
    exact (Action.spares_pure _).stopsClean

/-! ## The parts of the command -/

theorem run_tryScan (x : Action (Report × ScanResult)) (w : World) :
    (tryScan x).run.run w = match x.run.run w with
      | (.ok r, w') => (.ok (some r), w')
      | (.error .interrupted, w') => (.ok none, w')
      | (.error e, w') => (.error e, w') := by
  rw [tryScan, run_tryCatch, run_bind_eq]
  rcases x.run.run w with ⟨result, w'⟩
  cases result with
  | ok r => rfl
  -- Being stopped is the one failure that is caught.
  | error e =>
      cases e with
      | interrupted => rfl
      | _ => rfl

theorem cases_of_tryScan (x : Action (Report × ScanResult)) (w w' : World)
    (scanned : Option (Report × ScanResult))
    (h : (tryScan x).run.run w = (.ok scanned, w')) :
    scanned = none ∧ x.run.run w = (.error .interrupted, w') ∨
      ∃ r, scanned = some r ∧ x.run.run w = (.ok r, w') := by
  rw [run_tryScan] at h
  rcases hrun : x.run.run w with ⟨result, w₁⟩
  rw [hrun] at h
  cases result with
  | ok r =>
      rw [Prod.mk.injEq, Except.ok.injEq] at h
      exact Or.inr ⟨r, h.1.symm, by rw [h.2]⟩
  | error e =>
      cases e with
      | interrupted =>
          rw [Prod.mk.injEq, Except.ok.injEq] at h
          exact Or.inl ⟨h.1.symm, by rw [h.2]⟩
      | _ => cases (Prod.mk.inj h).1

theorem spares_tryConfig (x : Attempt Config) : (tryConfig x).Spares := by
  intro w
  rw [run_tryConfig]
  rcases x.run.run w.scan.log with ⟨result, log⟩
  cases result with
  | ok c => rfl
  | error e =>
      cases e with
      | config why => rfl
      | _ => rfl

/-- A report is written once more if the user asked for that. -/
theorem exists_of_exportIfAsked (path : Option String) (r : Report) (form : Value)
    (hform : ReportStore.formOf r = .ok form) (w w' : World) (items : List Item)
    (h : (exportIfAsked path r).run.run w = (.ok items, w')) :
    given path = none ∧ w'.disk = w.disk ∨
      ∃ out, given path = some out ∧
        w.disk.writeFile out (ReportStore.contentOf form) = .ok w'.disk := by
  -- What the user did not ask for is not written.
  unfold exportIfAsked at h
  cases hpath : given path with
  | none =>
      rw [hpath] at h
      exact Or.inl ⟨rfl, by rw [(Prod.mk.inj h).2]⟩
  | some out =>
      rw [hpath] at h
      rcases exists_of_run_bind _ _ _ _ _ h with ⟨_, w₁, hexport, h⟩
      have hw : w₁ = w' := (Prod.mk.inj h).2
      subst hw
      rcases exists_of_ofFiling _ w w₁ () hexport with ⟨d, hwrite, hw₁⟩
      rcases Filing.exists_of_outcome_bind _ _ w.disk d () hwrite with ⟨form', _, hform', hwrite⟩
      rw [Filing.outcome_ofExcept, hform, Prod.mk.injEq, Except.ok.injEq] at hform'
      rw [← hform'.1, ← hform'.2] at hwrite
      refine Or.inr ⟨out, rfl, ?_⟩
      rw [Filing.ok_of_outcome_run _ _ _ d hwrite, hw₁]

/-! ## The command -/

/-- The place of the file that the user asked for, if any. -/
def ScanOptions.outputPlace (o : ScanOptions) (d : Disk) : Option Place :=
  (given o.jsonOutput).bind fun path => (d.locate true path).toOption

theorem adds_of_exportIfAsked (d : Disk) (o : ScanOptions) (r : Report) (form : Value)
    (hform : ReportStore.formOf r = .ok form) (place : Place) (name : String) (w w' : World)
    (items : List Item)
    (hadds : ReportStore.Adds d w.disk o.path place name none (ReportStore.contentOf form))
    (h : (exportIfAsked o.jsonOutput r).run.run w = (.ok items, w')) :
    (∀ out, given o.jsonOutput = some out →
      w'.disk.lookup out = .ok (.file (ReportStore.contentOf form))) ∧
      ReportStore.Adds d w'.disk o.path place name (o.outputPlace w'.disk)
        (ReportStore.contentOf form) := by
  rcases exists_of_exportIfAsked _ r form hform w w' items h with
    ⟨hnone, hdisk⟩ | ⟨out, hout, hwrite⟩
  · rw [ScanOptions.outputPlace, hnone, hdisk]
    exact ⟨(fun _ heq => by cases heq), hadds⟩
  -- What is written for the user is a file of its own, and leaves the report where it is.
  · rcases Disk.rewrites_writeFile w.disk w'.disk out _ hwrite with
      ⟨q, hq, hrewrites, hfile, _⟩
    have hq' := hrewrites.locate true out q hq
    rw [ScanOptions.outputPlace, hout, Option.bind_some, hq']
    refine ⟨fun path hpath => ?_, hadds.write w'.disk q hrewrites hfile⟩
    rw [← Option.some.inj hpath, Disk.lookup_of_locate w'.disk out q hq', hfile]

/-- A scan of a project that has its configuration and ends with a code was stopped, or is a
    success of each of its steps. -/
theorem cases_of_scanWith (p : Package) (d : Disk) (o : ScanOptions) (verbose : Bool)
    (stopAt : StopAt) (clock : Clock) (c : Config) (w w' : World) (outcome : Outcome)
    (h : (scanWith p d o verbose stopAt clock c).run.run w = (.ok outcome, w')) :
    outcome.code = 130 ∧
        (executeScan p o.path (projectName d o.path none) c stopAt clock).run.run w =
          (.error .interrupted, w') ∨
      ∃ r s w₁ items,
        (executeScan p o.path (projectName d o.path none) c stopAt clock).run.run w =
          (.ok (r, s), w₁) ∧
        outcome.code = (if isSerious r then 1 else 0) ∧
        showReport r (some s) verbose o.showClosed = .ok outcome.out ∧
        (exportIfAsked o.jsonOutput r).run.run w₁ = (.ok items, w') := by
  unfold scanWith at h
  rcases exists_of_run_bind _ _ _ _ _ h with ⟨scanned, w₁, hscan, h⟩
  rw [run_bind _ _ _ _ _ (run_get w₁)] at h
  -- A scan that was stopped shows nothing and exports nothing, so that its world is the last
  -- one.
  rcases cases_of_tryScan _ w w₁ scanned hscan with ⟨hnone, hstopped⟩ | ⟨⟨r, s⟩, hsome, hrun⟩
  · rw [hnone] at h
    have hend := Prod.mk.inj h
    rw [← Except.ok.inj hend.1, ← hend.2]
    exact Or.inl ⟨rfl, hstopped⟩
  · rw [hsome] at h
    rcases exists_of_run_bind _ _ _ _ _ h with ⟨out, w₂, hshow, h⟩
    rcases exists_of_run_bind _ _ _ _ _ h with ⟨items, w₃, hexport, h⟩
    have hshown := Prod.mk.inj hshow
    have hend := Prod.mk.inj h
    rw [← hshown.2] at hexport
    rw [← Except.ok.inj hend.1, ← hend.2]
    exact Or.inr ⟨r, s, w₁, items, hrun, rfl, hshown.1, hexport⟩

/-- What a scan of a project leaves on the disk once it has its configuration. -/
theorem disk_of_scanWith (p : Package) (d : Disk) (o : ScanOptions) (verbose : Bool)
    (stopAt : StopAt) (clock : Clock) (config : Config) (w w' : World) (outcome : Outcome)
    (hd : w.disk.Proper) (hroot : w.disk.isFolder o.path = true)
    (htidy : ReportStore.Tidy w.disk o.path)
    (h : (scanWith p d o verbose stopAt clock config).run.run w = (.ok outcome, w')) :
    outcome.code = 130 ∧ w'.disk = w.disk ∨
      ∃ r form place number, outcome.code = (if isSerious r then 1 else 0) ∧
        ReportStore.formOf r = .ok form ∧
        (∀ out, given o.jsonOutput = some out →
          w'.disk.lookup out = .ok (.file (ReportStore.contentOf form))) ∧
        ReportStore.Adds w.disk w'.disk o.path place (ReportStore.fileName clock.now number)
          (o.outputPlace w'.disk) (ReportStore.contentOf form) := by
  rcases cases_of_scanWith p d o verbose stopAt clock config w w' outcome h with
    ⟨hcode, hstopped⟩ | ⟨r, s, w₁, items, hrun, hcode, _, hexport⟩
  · exact Or.inl ⟨hcode, stopsClean_executeScan _ _ _ _ _ _ w w' hstopped⟩
  · rcases exists_of_executeScan p o.path _ config stopAt clock w w₁ r s hroot hrun with
      ⟨previous, number, _, _, _, _, path, _, _, _, hr, hsave⟩
    -- The name of the file comes from the time of the report, which is that of the clock.
    have htime : r.endTime = clock.now := by rw [hr]; rfl
    rcases ReportStore.adds_of_save w.disk w₁.disk hd o.path hroot htidy r path hsave with
      ⟨form, place, number', hform, hadds⟩
    rw [htime] at hadds
    exact Or.inr ⟨r, form, place, number', hcode, hform,
      adds_of_exportIfAsked w.disk o r form hform place _ w₁ w' items hadds hexport⟩

/-- What the command for scans leaves on the disk, in a project without links and temporary files
    among its reports. If it ends with the code for a mistake or for a scan that was stopped, the
    disk is as it was. Otherwise it ends with one if what it reports is serious and with zero if
    not, and the disk has one report more, in a new file, in that of the latest report and in the
    file that the user asked for. -/
theorem disk_of_runScan (p : Package) (o : ScanOptions) (verbose : Bool) (stopAt : StopAt)
    (clock : Clock) (w w' : World) (outcome : Outcome) (hd : w.disk.Proper)
    (htidy : ReportStore.Tidy w.disk o.path)
    (h : (runScan p o verbose stopAt clock).run.run w = (.ok outcome, w')) :
    (outcome.code = 2 ∨ outcome.code = 130) ∧ w'.disk = w.disk ∨
      ∃ r form place number, outcome.code = (if isSerious r then 1 else 0) ∧
        ReportStore.formOf r = .ok form ∧
        (∀ out, given o.jsonOutput = some out →
          w'.disk.lookup out = .ok (.file (ReportStore.contentOf form))) ∧
        ReportStore.Adds w.disk w'.disk o.path place (ReportStore.fileName clock.now number)
          (o.outputPlace w'.disk) (ReportStore.contentOf form) := by
  rw [runScan_eq, run_bind _ _ _ _ _ (run_get w)] at h
  by_cases hroot : w.disk.isFolder o.path = true
  · simp only [hroot, Bool.not_true, Bool.false_eq_true, if_false] at h
    rcases exists_of_run_bind _ _ _ _ _ h with ⟨config, w₁, hconfig, h⟩
    -- The configuration is only read, so that what is known of the disk is known still.
    have hdisk := (spares_tryConfig _).disk_eq hconfig
    cases config with
    | error e =>
        have hend := Prod.mk.inj h
        rw [← Except.ok.inj hend.1, ← hend.2]
        exact Or.inl ⟨Or.inl rfl, hdisk⟩
    | ok config =>
        rw [← hdisk] at hd hroot htidy ⊢
        rcases disk_of_scanWith p _ o verbose stopAt clock config w₁ w' outcome hd hroot htidy h
          with ⟨hcode, hsame⟩ | hreported
        · exact Or.inl ⟨Or.inr hcode, hsame⟩
        · exact Or.inr hreported
  · simp only [hroot, Bool.not_false, if_true] at h
    have hend := Prod.mk.inj h
    rw [← Except.ok.inj hend.1, ← hend.2]
    exact Or.inl ⟨Or.inl rfl, rfl⟩

/-! ## One project -/

/-- A project of one file, which is a letter. The name that a report would be given is taken. -/
def takenProject : Disk where
  root := .folder [("p", .folder
    [("a.py", .file (Utf8.encode "x".toList)),
     (".securecode", .folder [("reports", .folder [("report-1.json", .file [])])])])]
  cwd := []

/-- The user asks for the report in a file of its own. -/
def takenOptions : ScanOptions :=
  { path := "/p", jsonOutput := some "/out.json" }

/-- What the command does with the project, if it is stopped and if not. -/
def takenRun (stopAt : StopAt) : Except Failure Outcome × World :=
  (runScan letterPackage takenOptions false stopAt ⟨1000, 0⟩).run.run
    (World.ofDisk takenProject 1000)

theorem exists_takenRun (stopAt : StopAt) (code : Nat)
    (h : (takenRun stopAt).1.toOption.map Outcome.code = some code) :
    ∃ outcome w', takenRun stopAt = (.ok outcome, w') ∧ outcome.code = code :=
  exists_run_of_toOption_map (takenRun stopAt) Outcome.code code h

theorem tidy_takenProject : ReportStore.Tidy takenProject "/p" := by
  intro entries hentries p hp
  have hlookup : takenProject.lookup (ReportStore.folder "/p") =
      .ok (.folder [("report-1.json", .file [])]) := by rfl
  rw [hlookup, Except.ok.injEq, Entry.folder.injEq] at hentries
  rw [← hentries, List.mem_singleton] at hp
  rw [hp]
  refine ⟨(fun target heq => by cases heq), fun name content heq => ?_⟩
  exact absurd heq (ReportStore.temporary_ne name _ (ReportStore.fileName_endsInJson 1000 0))

/-- The project is as it was if the command is stopped, and has one report more if not. -/
theorem disk_of_runScan_taken :
    (∃ outcome w', takenRun (some 1) = (.ok outcome, w') ∧ outcome.code = 130 ∧
      w'.disk = takenProject) ∧
    ∃ outcome w' r form place number, takenRun none = (.ok outcome, w') ∧ outcome.code = 0 ∧
      ReportStore.formOf r = .ok form ∧
      w'.disk.lookup "/out.json" = .ok (.file (ReportStore.contentOf form)) ∧
      ReportStore.Adds takenProject w'.disk "/p" place (ReportStore.fileName 1000 number)
        (takenOptions.outputPlace w'.disk) (ReportStore.contentOf form) := by
  have hproper : takenProject.Proper := Entry.proper_of_isProper _ (by decide +kernel)
  have hcodes : (takenRun (some 1)).1.toOption.map Outcome.code = some 130 ∧
      (takenRun none).1.toOption.map Outcome.code = some 0 := by decide +kernel
  rcases exists_takenRun _ _ hcodes.1 with ⟨stopped, w₁, hstopped, hcode₁⟩
  rcases exists_takenRun _ _ hcodes.2 with ⟨ended, w₂, hended, hcode₂⟩
  constructor
  · rcases disk_of_runScan letterPackage takenOptions false (some 1) ⟨1000, 0⟩
      (World.ofDisk takenProject 1000) w₁ stopped hproper tidy_takenProject hstopped with
      ⟨_, hdisk⟩ | ⟨r, _, _, _, hcode, _⟩
    · exact ⟨stopped, w₁, hstopped, hcode₁, hdisk⟩
    · rw [hcode₁] at hcode
      split at hcode
      · cases hcode
      · cases hcode
  · rcases disk_of_runScan letterPackage takenOptions false none ⟨1000, 0⟩
      (World.ofDisk takenProject 1000) w₂ ended hproper tidy_takenProject hended with
      ⟨hcode, _⟩ | ⟨r, form, place, number, _, hform, hout, hadds⟩
    · rw [hcode₂] at hcode
      rcases hcode with hcode | hcode
      · cases hcode
      · cases hcode
    · exact ⟨ended, w₂, r, form, place, number, hended, hcode₂, hform, hout _ rfl, hadds⟩

end CodeAudit
