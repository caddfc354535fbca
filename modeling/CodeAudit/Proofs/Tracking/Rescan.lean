import CodeAudit.Proofs.Project
import CodeAudit.Proofs.Scan.Locality
import CodeAudit.Proofs.Scan.View
import CodeAudit.Proofs.Store.Stored
import CodeAudit.Proofs.Store.Writes
import CodeAudit.Proofs.Tracking.Scans

/-!
# Scanning Twice

That a project which is scanned again has nothing new in it.

A scan writes into the project it has searched: its report is saved there, in a folder that is
made for it, and is what the next scan is compared with. So there are two halves to this. One is
about the reports: the second is compared with the first, and if the scans have found the same,
every finding is found again with the time at which it was first seen. That takes a report that
is read back as it was, times included, whatever stood in the file of the report before it.

The other half is about the disk. The second scan finds the same if it looks at the same files
with the same content, which the first may have changed by what it wrote. `KeepsApart` says that
it has not. A configuration whose patterns take in the reports themselves breaks it, and then the
second scan does find something new: what its rules object to in the first report.

## Main definitions

* `standing`: The state and the first time of a finding that a scan has found.
* `KeepsApart`: A scan does not look at what a scan before it has written.

## Theorems

* `trackSince_eq`: The findings of a report, from their standing.
* `findings_of_found_again`: What is found again persists, with the time at which it was first
  seen.
* `looksSame_of_save`: Saving a report makes no difference to a scan that is kept apart from it.
* `rescan_of_keepsApart`: A project that is scanned again has nothing new in it.
* `not_rescan_of_reports`: A scan that searches reports finds something new.
-/

namespace CodeAudit

/-! ## Findings that are found again -/

/-- The state of a finding with a fingerprint that a scan has found, and the time at which it was
    first seen. -/
def standing (previous : Option Report) (now : Int) (fingerprint : String) : Status × Value :=
  match previous.bind fun r => findByFingerprint? r.findings fingerprint with
  | some prior => (.persistent, firstSeen prior now)
  | none => (.new, .int now)

/-- The findings that are gone since the report before. -/
def goneSince (previous : Option Report) (now : Int) (current : List Finding) : List Finding :=
  match previous with
  | none => []
  | some r => closeGone now (current.map Finding.fingerprint) r.findings

/-- A finding that a scan has found, as its report has it. -/
def Finding.standingSince (previous : Option Report) (now : Int) (f : Finding) : Finding :=
  f.seenSince (standing previous now f.fingerprint).1 now (standing previous now f.fingerprint).2

theorem trackSince_eq (previous : Option Report) (current : List Finding) (now : Int) :
    trackSince previous current now =
      current.map (Finding.standingSince previous now) ++ goneSince previous now current := by
  cases previous with
  | none =>
      rw [goneSince, List.append_nil]
      rfl
  | some r =>
      rw [trackSince, track, goneSince]
      refine congrArg (· ++ _) (List.map_congr_left fun f _ => ?_)
      rw [trackOne, Finding.standingSince, standing, Option.bind_some]
      cases findByFingerprint? r.findings f.fingerprint with
      | none => rfl
      | some prior => rfl

theorem standing_ne_null (previous : Option Report) (now : Int) (fingerprint : String) :
    (standing previous now fingerprint).2 ≠ .null := by
  rw [standing]
  split
  · rename_i prior _
    rw [firstSeen]
    split
    · exact fun h => by cases h
    · rename_i hne
      exact hne
  · exact fun h => by cases h

theorem isActive_standingSince (previous : Option Report) (now : Int) (f : Finding) :
    (f.standingSince previous now).isActive = true := by
  have hstatus : (standing previous now f.fingerprint).1.isActive = true := by
    rw [standing]
    split
    · rfl
    · rfl
  exact hstatus

theorem status_of_mem_goneSince (previous : Option Report) (now : Int) (current : List Finding)
    (g : Finding) (hg : g ∈ goneSince previous now current) : g.status = some .closed := by
  cases previous with
  | none => exact absurd hg List.not_mem_nil
  | some r =>
      rcases exists_of_mem_closeGone now r.findings _ g hg with ⟨prior, _, heq⟩
      rw [heq]
      rfl

/-- The active findings of a report are those of its scan. -/
theorem filter_isActive_trackSince (previous : Option Report) (current : List Finding)
    (now : Int) : (trackSince previous current now).filter Finding.isActive =
      current.map (Finding.standingSince previous now) := by
  have hcurrent : (current.map (Finding.standingSince previous now)).filter Finding.isActive =
      current.map (Finding.standingSince previous now) := by
    refine List.filter_eq_self.mpr (List.forall_mem_map.mpr fun f _ => ?_)
    exact isActive_standingSince previous now f
  have hgone : (goneSince previous now current).filter Finding.isActive = [] := by
    refine List.filter_eq_nil_iff.mpr fun g hg => ?_
    rw [Finding.isActive, status_of_mem_goneSince previous now current g hg]
    exact Bool.false_ne_true
  rw [trackSince_eq, List.filter_append, hcurrent, hgone, List.append_nil]

/-- What a scan has found stands in its report under its fingerprint, and was first seen when the
    fingerprint was. -/
theorem standing_of_found (r : Report) (previous : Option Report) (current : List Finding)
    (now : Int) (h : r.findings = trackSince previous current now) (later : Int) (f : Finding)
    (hf : f ∈ current) :
    standing (some r) later f.fingerprint =
      (.persistent, (standing previous now f.fingerprint).2) := by
  have hfind : ∃ g ∈ current, g.fingerprint = f.fingerprint ∧
      findByFingerprint? r.findings f.fingerprint = some (g.standingSince previous now) := by
    have hsome : (current.find? fun g => g.fingerprint == f.fingerprint).isSome = true :=
      List.find?_isSome.mpr ⟨f, hf, beq_self_eq_true _⟩
    rcases Option.isSome_iff_exists.mp hsome with ⟨g, hg⟩
    have hsame := List.find?_some hg
    refine ⟨g, List.mem_of_find?_eq_some hg, beq_iff_eq.mp hsame, ?_⟩
    -- Findings of the scan come first in the report, so those that are gone are not looked at.
    rw [findByFingerprint?, h, trackSince_eq, List.find?_append, List.find?_map]
    have hcomp : ((fun g => g.fingerprint == f.fingerprint) ∘ Finding.standingSince previous now) =
        fun g => g.fingerprint == f.fingerprint := rfl
    rw [hcomp, hg, Option.map_some, Option.some_or]
  rcases hfind with ⟨g, _, hsame, hfound⟩
  have hfirst : firstSeen (g.standingSince previous now) later =
      (standing previous now f.fingerprint).2 := by
    have hne := standing_ne_null previous now g.fingerprint
    have hdetected : (g.standingSince previous now).firstDetected =
        (standing previous now g.fingerprint).2 := rfl
    rw [firstSeen, hdetected, ← hsame]
    split
    · rename_i hnull
      exact absurd hnull hne
    · rfl
  simp only [standing, Option.bind_some, hfound]
  exact congrArg _ hfirst

/-- If a scan finds the same as the one before, its report has nothing new. What was active
    persists in it, and nothing of that is closed. -/
theorem findings_of_found_again (r₁ r₂ : Report) (previous : Option Report)
    (current : List Finding) (now later : Int)
    (h₁ : r₁.findings = trackSince previous current now)
    (h₂ : r₂.findings = trackSince (some r₁) current later) :
    (∀ f ∈ r₂.findings, f.status ≠ some .new) ∧
      r₂.active = r₁.active.map (fun f => f.seenSince .persistent later f.firstDetected) ∧
      ∀ f ∈ r₁.active, ∀ g ∈ r₂.findings, g.status = some .closed →
        g.fingerprint ≠ f.fingerprint := by
  have hagain := standing_of_found r₁ previous current now h₁ later
  have hactive₁ : r₁.active = current.map (Finding.standingSince previous now) := by
    rw [Report.active, h₁, filter_isActive_trackSince]
  have hactive₂ : r₂.active = current.map (Finding.standingSince (some r₁) later) := by
    rw [Report.active, h₂, filter_isActive_trackSince]
  refine ⟨fun f hf => ?_, ?_, fun f hf g hg hclosed => ?_⟩
  · rw [h₂, trackSince_eq] at hf
    rcases List.mem_append.mp hf with hcurrent | hgone
    · rcases List.mem_map.mp hcurrent with ⟨g, hg, heq⟩
      rw [← heq, Finding.standingSince, hagain g hg]
      exact fun h => nomatch h
    · rw [status_of_mem_goneSince _ _ _ f hgone]
      exact fun h => nomatch h
  · rw [hactive₁, hactive₂, List.map_map]
    refine List.map_congr_left fun f hf => ?_
    rw [Finding.standingSince, hagain f hf]
    rfl
  · rw [hactive₁] at hf
    rcases List.mem_map.mp hf with ⟨f', hf', heq⟩
    rw [h₂, trackSince_eq] at hg
    rcases List.mem_append.mp hg with hcurrent | hgone
    · -- What the scan has found is active.
      rcases List.mem_map.mp hcurrent with ⟨g', hg', heq'⟩
      rw [← heq', Finding.standingSince, hagain g' hg'] at hclosed
      exact nomatch hclosed
    · have hmem := List.mem_map_of_mem (f := Finding.fingerprint) hgone
      rw [goneSince, mem_closeGone] at hmem
      have hfound : f'.fingerprint ∈ current.map Finding.fingerprint := List.mem_map_of_mem hf'
      exact fun hsame => hmem.2 (hsame ▸ heq ▸ hfound)

/-! ## Disks that a scan has written to -/

/-- A scan does not look at what a scan before it, that ended at a time, has written. The disks are
    those before and after that scan. No link stands where its report is written. The folder that
    is made for reports brings no file into view. And no file that is looked at, before or after,
    is one that was written. -/
structure KeepsApart (root : String) (c : Config) (endTime : Int) (d d' : Disk) : Prop where
  links : ∀ p ∈ ReportStore.writes (ReportStore.prepared d root) root endTime,
    (ReportStore.prepared d root).NoLinkAt p
  files : ∀ path ∈ selectFiles (ReportStore.prepared d root) root c.includes c.excludes,
    path ∈ selectFiles d root c.includes c.excludes
  rules : ∀ path ∈ customRuleFiles (ReportStore.prepared d root) (customFolder root c),
    path ∈ customRuleFiles d (customFolder root c)
  before : ∀ path ∈ lookedAt (ReportStore.prepared d root) root c,
    ∀ p ∈ ReportStore.writes (ReportStore.prepared d root) root endTime, ∀ place,
      (ReportStore.prepared d root).locate true path = .ok place →
        (ReportStore.prepared d root).locate true p ≠ .ok place
  after : ∀ path ∈ lookedAt d' root c,
    ∀ p ∈ ReportStore.writes (ReportStore.prepared d root) root endTime, ∀ place,
      d'.locate true path = .ok place → d'.locate true p ≠ .ok place

instance (root : String) (c : Config) (endTime : Int) (d d' : Disk) :
    Decidable (KeepsApart root c endTime d d') :=
  decidable_of_iff
    ((∀ p ∈ ReportStore.writes (ReportStore.prepared d root) root endTime,
        (ReportStore.prepared d root).NoLinkAt p) ∧
      (∀ path ∈ selectFiles (ReportStore.prepared d root) root c.includes c.excludes,
        path ∈ selectFiles d root c.includes c.excludes) ∧
      (∀ path ∈ customRuleFiles (ReportStore.prepared d root) (customFolder root c),
        path ∈ customRuleFiles d (customFolder root c)) ∧
      (∀ path ∈ lookedAt (ReportStore.prepared d root) root c,
        ∀ p ∈ ReportStore.writes (ReportStore.prepared d root) root endTime, ∀ place,
          (ReportStore.prepared d root).locate true path = .ok place →
            (ReportStore.prepared d root).locate true p ≠ .ok place) ∧
      ∀ path ∈ lookedAt d' root c,
        ∀ p ∈ ReportStore.writes (ReportStore.prepared d root) root endTime, ∀ place,
          d'.locate true path = .ok place → d'.locate true p ≠ .ok place)
    ⟨fun ⟨links, files, rules, before, after⟩ => ⟨links, files, rules, before, after⟩,
      fun h => ⟨h.links, h.files, h.rules, h.before, h.after⟩⟩

/-- Saving a report makes no difference to a scan that is kept apart from it, and the report is
    the latest one. -/
theorem looksSame_of_save (d d' : Disk) (hd : d.Proper) (root : String) (c : Config) (r : Report)
    (path : String) (hroot : d.isFolder root = true)
    (h : Filing.outcome (ReportStore.save root r) d = (.ok path, d'))
    (hapart : KeepsApart root c r.endTime d d') :
    LooksSame root c d d' ∧ ∃ form, ReportStore.formOf r = .ok form ∧
      d'.lookup (ReportStore.latestPath root) = .ok (.file (ReportStore.contentOf form)) := by
  rcases ReportStore.rewrites_save d d' hd root r path h hapart.links with
    ⟨form, places, hform, hrewrites, hplaces, hlatest, hd'⟩
  rcases Disk.grows_buildFolders ((ReportStore.folder root).length + 1) d
    (ReportStore.folder root) with ⟨hgrows, hproper⟩
  -- First the folder is made, and then files in it are written.
  have hmade : LooksSame root c d (ReportStore.prepared d root) :=
    looksSame_of_grows hgrows hd (hproper hd) root c hroot hapart.files hapart.rules
  have hwritten : LooksSame root c (ReportStore.prepared d root) d' := by
    refine looksSame_of_rewrites hrewrites (hproper hd) hd' root c hmade.folder ?_ ?_
    · intro q hq place hplace hmem
      rcases hplaces place hmem with ⟨p, hp, hat⟩
      exact hapart.before q hq p hp place hplace hat
    · intro q hq place hplace hmem
      rcases hplaces place hmem with ⟨p, hp, hat⟩
      exact hapart.after q hq p hp place hplace (hrewrites.locate true p place hat)
  exact ⟨hmade.trans hwritten, form, hform, hlatest⟩

/-! ## Two scans -/

variable (p : Package) (root name₁ name₂ : String) (c : Config) (stopAt₁ stopAt₂ : StopAt)
  (clock₁ clock₂ : Clock)

/-- A project that is scanned again has nothing new in it, if the second scan does not look at what
    the first has written and nobody else has changed the disk. The active findings of the first
    report persist in the second, each with the time at which it was first seen, and none of them
    is closed. -/
theorem rescan_of_keepsApart (w w₁ v v₁ : World) (r₁ r₂ : Report) (s₁ s₂ : ScanResult)
    (hproper : w.disk.Proper) (hw : w.scan.matcher.Reached) (hv : v.scan.matcher.Reached)
    (hfirst : (executeScan p root name₁ c stopAt₁ clock₁).run.run w = (.ok (r₁, s₁), w₁))
    (hdisk : v.disk = w₁.disk)
    (hsecond : (executeScan p root name₂ c stopAt₂ clock₂).run.run v = (.ok (r₂, s₂), v₁))
    (hapart : KeepsApart root c clock₁.now w.disk w₁.disk) :
    (∀ f ∈ r₂.findings, f.status ≠ some .new) ∧
      r₂.active = r₁.active.map (fun f => f.seenSince .persistent clock₂.now f.firstDetected) ∧
      ∀ f ∈ r₁.active, ∀ g ∈ r₂.findings, g.status = some .closed →
        g.fingerprint ≠ f.fingerprint := by
  cases hroot : w.disk.isFolder root with
  | false =>
      -- Without a folder there is nothing to report, and nothing is written.
      rcases executeScan_of_not_isFolder p root name₁ c stopAt₁ clock₁ w w₁ r₁ s₁ hroot hfirst with
        ⟨hnone, hsame⟩
      have hroot' : v.disk.isFolder root = false := by rw [hdisk, hsame, hroot]
      rcases executeScan_of_not_isFolder p root name₂ c stopAt₂ clock₂ v v₁ r₂ s₂ hroot' hsecond
        with ⟨hnone', _⟩
      rw [Report.active, Report.active, hnone, hnone']
      exact ⟨fun f hf => absurd hf List.not_mem_nil, rfl, fun f hf => absurd hf List.not_mem_nil⟩
  | true =>
      rcases exists_of_executeScan p root name₁ c stopAt₁ clock₁ w w₁ r₁ s₁ hroot hfirst with
        ⟨previous, number, log, log', t, t', path, hprevious, ht, hscan, hreport, hsave⟩
      have hend : r₁.endTime = clock₁.now := by rw [hreport]; rfl
      rw [← hend] at hapart
      rcases looksSame_of_save w.disk w₁.disk hproper root c r₁ path hroot hsave hapart with
        ⟨hlooks, form, hform, hlatest⟩
      have hroot' : v.disk.isFolder root = true := by rw [hdisk]; exact hlooks.folder
      rcases exists_of_executeScan p root name₂ c stopAt₂ clock₂ v v₁ r₂ s₂ hroot' hsecond with
        ⟨previous', number', more, more', u, u', path', hprevious', hu, hscan', hreport', _⟩
      -- The first report is the latest one for the second scan.
      have hstorable : r₁.Storable := by
        rw [hreport]
        refine Report.storable_generateReport _ _ _ _ _ _ fun r hr => ?_
        rw [hr] at hprevious
        exact ReportStore.keeps_of_latest w.disk root log log' r hprevious
      have hread := ReportStore.latest_of_lookup w₁.disk root r₁ hstorable form hform hlatest more
      rw [hdisk, hread, Prod.mk.injEq, Except.ok.injEq] at hprevious'
      -- And the second scan finds what the first has found.
      rw [hdisk] at hscan'
      have hfound := findings_of_looksSame p root c w.disk w₁.disk hlooks hroot stopAt₁ stopAt₂
        clock₁.elapsed clock₂.elapsed t u t' u' (ht ▸ hw.faithful) (hu ▸ hv.faithful) s₁ s₂ hscan
        hscan'
      refine findings_of_found_again r₁ r₂ previous s₁.findings clock₁.now clock₂.now ?_ ?_
      · rw [hreport]
        rfl
      · rw [hreport', ← hfound, ← hprevious'.1]
        rfl

/-! ## Small projects scanned twice -/

/-- A scan of the folder `p` of a disk at a time. -/
def scanAt (p : Package) (c : Config) (d : Disk) (now : Int) :
    Except Failure (Report × ScanResult) × World :=
  (executeScan p "/p" "p" c none ⟨now, 0⟩).run.run (World.ofDisk d 1000)

theorem exists_of_scanAt {α : Type} (p : Package) (c : Config) (d : Disk) (now : Int)
    (f : Report → α) (a : α)
    (h : (scanAt p c d now).1.toOption.map (fun result => f result.1) = some a) :
    ∃ r s w, scanAt p c d now = (.ok (r, s), w) ∧ w.disk = (scanAt p c d now).2.disk ∧
      f r = a := by
  rcases exists_run_of_toOption_map (scanAt p c d now) _ a h with ⟨⟨r, s⟩, w, hrun, hf⟩
  exact ⟨r, s, w, hrun, by rw [hrun], hf⟩

/-- A project of one file, which is a letter. -/
def letterProject : Disk where
  root := .folder [("p", .folder [("a.py", .file (Utf8.encode "x".toList))])]
  cwd := []

/-- What is found in the project is found again, and is not new. -/
theorem rescan_of_keepsApart_letter : ∃ r₁ r₂ : Report, r₁.active.length = 1 ∧
    (∀ f ∈ r₂.findings, f.status ≠ some .new) ∧
      r₂.active = r₁.active.map (fun f => f.seenSince .persistent 2000 f.firstDetected) ∧
      ∀ f ∈ r₁.active, ∀ g ∈ r₂.findings, g.status = some .closed →
        g.fingerprint ≠ f.fingerprint := by
  have hproper : letterProject.Proper := Entry.proper_of_isProper _ (by decide +kernel)
  -- The second run starts from what the first has left, so they are computed together.
  have hruns : (scanAt letterPackage .standard letterProject 1000).1.toOption.map
        (fun result => result.1.active.length) = some 1 ∧
      (scanAt letterPackage .standard
        (scanAt letterPackage .standard letterProject 1000).2.disk 2000).1.toOption.map
        (fun result => result.1.active.length) = some 1 ∧
      KeepsApart "/p" .standard 1000 letterProject
        (scanAt letterPackage .standard letterProject 1000).2.disk := by decide +kernel
  rcases hruns with ⟨hfirst, hsecond, hapart⟩
  rcases exists_of_scanAt _ _ _ _ (fun r => r.active.length) 1 hfirst with
    ⟨r₁, s₁, w₁, h₁, hdisk, hone⟩
  rw [← hdisk] at hsecond hapart
  rcases exists_of_scanAt _ _ _ _ (fun r => r.active.length) 1 hsecond with
    ⟨r₂, s₂, w₂, h₂, _, _⟩
  exact ⟨r₁, r₂, hone, rescan_of_keepsApart letterPackage "/p" "p" "p" .standard none none
    ⟨1000, 0⟩ ⟨2000, 0⟩ (World.ofDisk letterProject 1000) w₁ (World.ofDisk w₁.disk 1000) w₂ r₁ r₂
    s₁ s₂ hproper .start .start h₁ rfl h₂ hapart⟩

/-- A project without files. -/
def emptyProject : Disk where
  root := .folder [("p", .folder [])]
  cwd := []

/-- The package of one rule, which objects to every text. -/
def textPackage : Package :=
  .files [("l.yaml", .ok { letterPackage.letterRule with
    patterns := [⟨.regex, "(?s).+", [], none⟩] })]

/-- A configuration whose patterns take in a report. -/
def searchingReports : Config :=
  { Config.standard with includes := ["**/report-1.json"], excludes := [] }

/-- A scan that searches reports finds something new, although nobody else has changed the disk. A
    project in which there is nothing to find has something new in it when it is scanned again:
    the report of the first scan. -/
theorem not_rescan_of_reports : emptyProject.Proper ∧ ∃ r₁ r₂ s₁ s₂ w₁ w₂,
    scanAt textPackage searchingReports emptyProject 1000 = (.ok (r₁, s₁), w₁) ∧
      scanAt textPackage searchingReports w₁.disk 2000 = (.ok (r₂, s₂), w₂) ∧
      ∃ f ∈ r₂.findings, f.status = some .new := by
  have hruns : (scanAt textPackage searchingReports emptyProject 1000).1.toOption.map
        (fun result => result.1.findings.length) = some 0 ∧
      (scanAt textPackage searchingReports
        (scanAt textPackage searchingReports emptyProject 1000).2.disk 2000).1.toOption.map
        (fun result => result.1.findings.any fun f => f.status == some .new) = some true := by
    decide +kernel
  rcases hruns with ⟨hfirst, hsecond⟩
  rcases exists_of_scanAt _ _ _ _ (fun r => r.findings.length) 0 hfirst with
    ⟨r₁, s₁, w₁, h₁, hdisk, _⟩
  rw [← hdisk] at hsecond
  rcases exists_of_scanAt _ _ _ _ (fun r => r.findings.any fun f => f.status == some .new) true
    hsecond with ⟨r₂, s₂, w₂, h₂, _, hany⟩
  rcases List.any_eq_true.mp hany with ⟨f, hf, hnew⟩
  exact ⟨Entry.proper_of_isProper _ (by decide +kernel), r₁, r₂, s₁, s₂, w₁, w₂, h₁, h₂, f, hf,
    beq_iff_eq.mp hnew⟩

end CodeAudit
