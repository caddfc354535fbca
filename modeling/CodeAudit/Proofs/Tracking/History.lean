import CodeAudit.Proofs.Store.Reading
import CodeAudit.Proofs.Tracking.Scans

/-!
# The History in a Report

What every report of a series of scans says about all the scans so far.

A report is compared with one other, and yet it tells of every scan before it. What makes
this work is that a report forgets nothing: a finding that is gone stays in it as closed,
with the time at which it was first seen. `Tells` is that in the form of an invariant. It
speaks of the report before alone, and it is enough to know what the next report says.

`Accounts` is what the next report says, in full. That it follows from `Tells` is the step,
and that `Tells` holds again follows from it.

The report before may be handed on through the store. A report that is read again is the one
that was saved, so this makes no difference, except that a report with an integer of more
digits than can be written cannot be handed on in this way, and ends the series.

## Main definitions

* `entryOf`: The entry that a report has for a finding of its scan.
* `Accounts`: What a report says, from the scans alone.
* `Tells`: A report knows all scans so far.
* `reportsFrom`: The reports of a series of scans.
* `runScans`: A series of scans on a disk.

## Theorems

* `exists_accounts_report`: A report accounts for all scans, if the one before knows them.
* `exists_accounts_reportsFrom`: Every report of a series accounts for all scans so far.
* `outcome_runScans`: The way reports are handed on makes no difference.
* `history_of_runScans`: Every report of a series of scans on a disk accounts for all scans
  so far.
-/

namespace CodeAudit

/-- The entry that a report has for a finding of its scan. -/
def entryOf (earlier : List ScanStep) (s : ScanStep) (f : Finding) : Finding :=
  f.seenSince (if isSeen earlier f.fingerprint then .persistent else .new) s.now
    (firstTime (earlier ++ [s]) f.fingerprint)

/-- A finding of one of some scans, in a state and last seen at a time. It is first seen
    when the first of the scans shows its fingerprint. -/
def Stems (earlier : List ScanStep) (status : Status) (now : Int) (c : Finding) : Prop :=
  ∃ s ∈ earlier, ∃ f ∈ s.result.findings,
    c = f.seenSince status now (firstTime earlier f.fingerprint)

/-- What a report says about a scan that follows others. -/
structure Accounts (earlier : List ScanStep) (s : ScanStep) (r : Report)
    (closed : List Finding) : Prop where
  entries : r.findings = s.result.findings.map (entryOf earlier s) ++ closed
  closedOnce : (closed.map Finding.fingerprint).Nodup
  closedGone : ∀ fingerprint, fingerprint ∈ closed.map Finding.fingerprint ↔
    isSeen earlier fingerprint = true ∧ fingerprint ∉ s.fingerprints
  closedEntry : ∀ c ∈ closed, Stems earlier .closed s.now c
  times : ∀ f ∈ r.findings, f.firstDetected = firstTime (earlier ++ [s]) f.fingerprint ∧
    f.lastDetected = .int s.now
  kept : ∀ fingerprint, isSeen (earlier ++ [s]) fingerprint = true ↔
    fingerprint ∈ r.findings.map Finding.fingerprint

/-- A report knows all scans so far: it has an entry for every fingerprint that was seen,
    and each of its entries stems from one of the scans. -/
structure Tells (earlier : List ScanStep) (p : Report) : Prop where
  seen : ∀ fingerprint, isSeen earlier fingerprint = true ↔
    fingerprint ∈ p.findings.map Finding.fingerprint
  origin : ∀ f ∈ p.findings, ∃ status now, Stems earlier status now f

/-- The report before knows all scans so far. If there is none, there was no scan. -/
def Knows (earlier : List ScanStep) : Option Report → Prop
  | none => earlier = []
  | some p => Tells earlier p

theorem Tells.firstDetected_eq {earlier : List ScanStep} {p : Report} (h : Tells earlier p)
    (f : Finding) (hf : f ∈ p.findings) :
    f.firstDetected = firstTime earlier f.fingerprint := by
  rcases h.origin f hf with ⟨status, now, _, _, g, _, heq⟩
  rw [heq]
  rfl

/-! ## One report -/

theorem baseline_eq (s : ScanStep) :
    baseline s.result.findings s.now = s.result.findings.map (entryOf [] s) := by
  refine List.map_congr_left fun f hf => ?_
  have hmem : f.fingerprint ∈ s.fingerprints := List.mem_map_of_mem hf
  -- Before the first scan nothing was seen, so everything is new.
  have hnew : ¬ isSeen [] f.fingerprint = true := nofun
  rw [entryOf, firstTime_append_of_not_isSeen [] s f.fingerprint hnew hmem, if_neg hnew]

/-- A finding of a scan is compared with a report that knows all scans before. -/
theorem trackOne_eq (earlier : List ScanStep) (s : ScanStep) (p : Report)
    (h : Tells earlier p) (f : Finding) (hf : f ∈ s.result.findings) :
    trackOne p.findings s.now f = entryOf earlier s f := by
  have hmem : f.fingerprint ∈ s.fingerprints := List.mem_map_of_mem hf
  rw [trackOne, entryOf]
  cases hfound : findByFingerprint? p.findings f.fingerprint with
  | none =>
      have hnew : ¬ isSeen earlier f.fingerprint = true := fun hseen =>
        findByFingerprint?_none _ _ hfound ((h.seen f.fingerprint).mp hseen)
      rw [if_neg hnew, firstTime_append_of_not_isSeen earlier s f.fingerprint hnew hmem]
  | some prior =>
      rcases findByFingerprint?_some _ _ prior hfound with ⟨hprior, heq⟩
      have hseen : isSeen earlier f.fingerprint = true :=
        (h.seen f.fingerprint).mpr (heq ▸ List.mem_map_of_mem hprior)
      rcases firstTime_of_isSeen earlier f.fingerprint hseen with ⟨t, ht⟩
      -- The finding before may be closed by now: its first time is the one that counts all the
      -- same. It is not missing, because the fingerprint was seen.
      have hfirst : firstSeen prior s.now = firstTime earlier f.fingerprint := by
        rw [firstSeen, h.firstDetected_eq prior hprior, heq, ht]
      rw [if_pos hseen, firstTime_append_of_isSeen earlier [s] f.fingerprint hseen]
      simp only [hfirst]

/-- What is closed stems from an earlier scan. -/
theorem stems_of_mem_closeGone (earlier : List ScanStep) (s : ScanStep) (p : Report)
    (h : Tells earlier p) (seen : List String) (c : Finding)
    (hc : c ∈ closeGone s.now seen p.findings) : Stems earlier .closed s.now c := by
  rcases exists_of_mem_closeGone s.now p.findings seen c hc with ⟨prior, hprior, heq⟩
  rcases h.origin prior hprior with ⟨status, now, t, ht, f, hf, hprioreq⟩
  refine ⟨t, ht, f, hf, ?_⟩
  rw [heq, hprioreq]
  rfl

theorem Stems.isSeen {earlier : List ScanStep} {status : Status} {now : Int} {c : Finding}
    (h : Stems earlier status now c) : isSeen earlier c.fingerprint = true := by
  rcases h with ⟨s, hs, f, hf, heq⟩
  have hmem : f.fingerprint ∈ s.fingerprints := List.mem_map_of_mem hf
  rw [heq]
  exact List.any_eq_true.mpr ⟨s, hs, List.contains_iff_mem.mpr hmem⟩

/-- Later scans change nothing about a finding of an earlier one. -/
theorem Stems.append {earlier : List ScanStep} {status : Status} {now : Int} {c : Finding}
    (h : Stems earlier status now c) (more : List ScanStep) :
    Stems (earlier ++ more) status now c := by
  have hseen := h.isSeen
  rcases h with ⟨s, hs, f, hf, heq⟩
  refine ⟨s, List.mem_append_left more hs, f, hf, ?_⟩
  -- The first time was known when the scans ended at `earlier`, and does not change.
  have hfingerprint : c.fingerprint = f.fingerprint := by
    rw [heq]
    rfl
  rw [hfingerprint] at hseen
  rw [firstTime_append_of_isSeen earlier more f.fingerprint hseen]
  exact heq

/-- A report accounts for all scans, if what it has behind the findings of its scan is what
    is gone. -/
theorem accounts_of_closed (earlier : List ScanStep) (s : ScanStep) (r : Report)
    (closed : List Finding)
    (hentries : r.findings = s.result.findings.map (entryOf earlier s) ++ closed)
    (honce : (closed.map Finding.fingerprint).Nodup)
    (hgone : ∀ fingerprint, fingerprint ∈ closed.map Finding.fingerprint ↔
      isSeen earlier fingerprint = true ∧ fingerprint ∉ s.fingerprints)
    (hentry : ∀ c ∈ closed, Stems earlier .closed s.now c) : Accounts earlier s r closed := by
  refine ⟨hentries, honce, hgone, hentry, fun f hf => ?_, fun fingerprint => ?_⟩
  · rw [hentries] at hf
    rcases List.mem_append.mp hf with hcurrent | hclosed
    · rcases List.mem_map.mp hcurrent with ⟨g, _, heq⟩
      rw [← heq]
      exact ⟨rfl, rfl⟩
    · rcases (hentry f hclosed).append [s] with ⟨_, _, g, _, heq⟩
      rw [heq]
      exact ⟨rfl, rfl⟩
  · have hcurrent : (s.result.findings.map (entryOf earlier s)).map Finding.fingerprint =
        s.fingerprints := by
      rw [List.map_map]
      rfl
    rw [isSeen_concat, hentries, List.map_append, List.mem_append, hcurrent, hgone]
    -- What is in the scan is among its entries, and what is not was seen before and is closed.
    by_cases hmem : fingerprint ∈ s.fingerprints
    · exact ⟨fun _ => Or.inl hmem, fun _ => Or.inr hmem⟩
    · exact ⟨fun h => Or.inr ⟨h.resolve_right hmem, hmem⟩,
        fun h => Or.inl (h.resolve_left hmem).1⟩

/-- A report accounts for all scans, if the one before knows them. -/
theorem exists_accounts_report (earlier : List ScanStep) (s : ScanStep)
    (previous : Option Report) (h : Knows earlier previous) :
    ∃ closed, Accounts earlier s (s.report previous) closed := by
  cases previous with
  | none =>
      have hearlier : earlier = [] := h
      rw [hearlier]
      refine ⟨[], accounts_of_closed [] s _ [] ?_ List.nodup_nil (fun fingerprint => ?_)
        (fun _ hc => absurd hc List.not_mem_nil)⟩
      · rw [List.append_nil, ← baseline_eq]
        rfl
      · exact ⟨fun hmem => absurd hmem List.not_mem_nil, fun hseen => nomatch hseen.1⟩
  | some p =>
      have htells : Tells earlier p := h
      refine ⟨closeGone s.now s.fingerprints p.findings, accounts_of_closed earlier s _ _ ?_
        (nodup_closeGone s.now p.findings _) (fun fingerprint => ?_)
        (stems_of_mem_closeGone earlier s p htells _)⟩
      · rw [← List.map_congr_left (trackOne_eq earlier s p htells)]
        rfl
      · rw [mem_closeGone, htells.seen]

/-- A report that accounts for all scans knows them. -/
theorem Accounts.tells {earlier : List ScanStep} {s : ScanStep} {r : Report}
    {closed : List Finding} (h : Accounts earlier s r closed) : Tells (earlier ++ [s]) r := by
  refine ⟨h.kept, fun f hf => ?_⟩
  rw [h.entries] at hf
  rcases List.mem_append.mp hf with hcurrent | hclosed
  · rcases List.mem_map.mp hcurrent with ⟨g, hg, heq⟩
    exact ⟨_, s.now, s, List.mem_append_right earlier List.mem_cons_self, g, hg, heq.symm⟩
  · exact ⟨.closed, s.now, (h.closedEntry f hclosed).append [s]⟩

/-! ## A series of reports -/

/-- The reports of a series of scans, each compared with the one before. -/
def reportsFrom : Option Report → List ScanStep → List Report
  | _, [] => []
  | previous, s :: rest => s.report previous :: reportsFrom (some (s.report previous)) rest

theorem length_reportsFrom (steps : List ScanStep) :
    ∀ previous, (reportsFrom previous steps).length = steps.length := by
  induction steps with
  | nil => exact fun _ => rfl
  | cons s rest ih => exact fun previous => congrArg Nat.succ (ih _)

/-- Every report of a series accounts for all scans so far, if the report before the first
    of them does. -/
theorem exists_accounts_reportsFrom (steps : List ScanStep) :
    ∀ (earlier : List ScanStep) (previous : Option Report), Knows earlier previous →
      ∀ (k : Nat) (s : ScanStep) (r : Report), steps[k]? = some s →
        (reportsFrom previous steps)[k]? = some r →
          ∃ closed, Accounts (earlier ++ steps.take k) s r closed := by
  induction steps with
  | nil => exact fun _ _ _ _ _ _ hs => nomatch hs
  | cons first rest ih =>
      intro earlier previous h k s r hs hr
      rcases exists_accounts_report earlier first previous h with ⟨closed, hfirst⟩
      cases k with
      | zero =>
          rw [List.getElem?_cons_zero, Option.some.injEq] at hs
          rw [reportsFrom, List.getElem?_cons_zero, Option.some.injEq] at hr
          rw [List.take_zero, List.append_nil, ← hs, ← hr]
          exact ⟨closed, hfirst⟩
      | succ k =>
          rw [List.getElem?_cons_succ] at hs
          rw [reportsFrom, List.getElem?_cons_succ] at hr
          -- The first scan goes over to the earlier ones.
          rw [List.take_succ_cons, List.append_cons]
          exact ih (earlier ++ [first]) (some (first.report previous)) hfirst.tells k s r hs hr

-- A report is compared with the one that stands before it in the series, and has its identifier.
theorem previousId_reportsFrom (steps : List ScanStep) :
    ∀ (previous : Option Report) (k : Nat) (p r : Report),
      (reportsFrom previous steps)[k]? = some p →
        (reportsFrom previous steps)[k + 1]? = some r → r.previousId = .text p.id := by
  induction steps with
  | nil => exact fun _ _ _ _ hp => nomatch hp
  | cons first rest ih =>
      intro previous k p r hp hr
      rw [reportsFrom, List.getElem?_cons_succ] at hr
      cases k with
      | zero =>
          rw [reportsFrom, List.getElem?_cons_zero, Option.some.injEq] at hp
          cases rest with
          | nil => exact nomatch hr
          | cons second rest =>
              rw [reportsFrom, List.getElem?_cons_zero, Option.some.injEq] at hr
              rw [← hr, ← hp]
              rfl
      | succ k =>
          rw [reportsFrom, List.getElem?_cons_succ] at hp
          exact ih _ k p r hp hr

/-! ## A series on a disk -/

/-- The report before, as it reaches the next scan. -/
def handOver (root : String) : Option Report → Handover → Filing (Option Report)
  | some r, .store => do
    let _ ← ReportStore.save root r
    ExceptT.mk (pure ((ReportStore.latest (← get) root).run.run []).1)
  | previous, _ => return previous

/-- The reports of a series of scans, each compared with what reaches it of the one before. -/
def runScans (root : String) : Option Report → List ScanStep → Filing (List Report)
  | _, [] => return []
  | previous, s :: rest => do
    let handed ← handOver root previous s.handover
    let reports ← runScans root (some (s.report handed)) rest
    return s.report handed :: reports

/-- A project whose folder of reports can be made, or is there. -/
def IsReady (root : String) (d : Disk) : Prop :=
  ∃ made fs, ReportStore.Keeps d root made fs

/-- A report that is handed on through the store, and has an integer of more digits than can
    be written. -/
def IsStuck (r : Report) (way : Handover) : Prop :=
  way = .store ∧ ReportStore.formOf r = .error (.fault (.integerTooLong 0))

theorem formOf_generateReport (s : ScanStep) (previous : Option Report) :
    (∃ form, ReportStore.formOf (s.report previous) = .ok form) ∨
      ReportStore.formOf (s.report previous) = .error (.fault (.integerTooLong 0)) := by
  rcases Report.exists_encode_generateReport s.path s.name s.result previous s.now s.number with
    ⟨form, hform⟩
  rw [← ScanStep.report] at hform
  rw [ReportStore.formOf, hform]
  by_cases hshort : Json.hasShortIntegers form = true
  · exact Or.inl ⟨form, if_pos hshort⟩
  · exact Or.inr (if_neg hshort)

/-- A report of a series of scans. -/
def IsGenerated (p : Report) : Prop :=
  p.Typed ∧ ∃ (s : ScanStep) (previous : Option Report), p = s.report previous

theorem isGenerated_report (s : ScanStep) (previous : Option Report)
    (h : ∀ p, previous = some p → IsGenerated p) : IsGenerated (s.report previous) :=
  ⟨Report.typed_generateReport s.path s.name s.result previous s.now s.number
    (fun p hp => (h p hp).1.findings), s, previous, rfl⟩

/-- The report before reaches the next scan as it is, unless it is stuck. -/
theorem outcome_handOver (root : String) (d : Disk) (hd : IsReady root d)
    (previous : Option Report) (h : ∀ p, previous = some p → IsGenerated p) (way : Handover) :
    (∃ d', IsReady root d' ∧
      Filing.outcome (handOver root previous way) d = (.ok previous, d')) ∨
    (∃ d', Filing.outcome (handOver root previous way) d =
      (.error (.fault (.integerTooLong 0)), d')) ∧ ∃ p, previous = some p ∧ IsStuck p way := by
  cases previous with
  | none => exact Or.inl ⟨d, hd, rfl⟩
  | some p =>
      cases way with
      | memory => exact Or.inl ⟨d, hd, rfl⟩
      | store =>
          rcases hd with ⟨made, fs, hkeeps⟩
          rcases h p rfl with ⟨htyped, s, before, heq⟩
          have hcases := formOf_generateReport s before
          rw [← heq] at hcases
          rw [handOver]
          rcases hcases with ⟨form, hform⟩ | hlong
          · rcases ReportStore.latest_of_save d made root fs hkeeps p htyped form hform with
              ⟨path, d', fs', hsave, hfiles, hlatest⟩
            refine Or.inl ⟨d', ⟨d', fs', ReportStore.keeps_of_holdsFiles d' root fs' hfiles⟩, ?_⟩
            rw [Filing.outcome_bind _ _ d d' path hsave,
              Filing.outcome_bind _ _ d' d' d' (Filing.outcome_get d'), Filing.outcome_ofExcept,
              hlatest]
          · rcases ReportStore.outcome_save_error d made root fs hkeeps p _ hlong with ⟨d', hfails⟩
            refine Or.inr ⟨⟨d', ?_⟩, p, rfl, rfl, hlong⟩
            exact Filing.outcome_bind_error _ _ d d' _ hfails

/-- The way reports are handed on makes no difference, unless one of them is stuck. -/
theorem outcome_runScans (root : String) (steps : List ScanStep) :
    ∀ (previous : Option Report) (d : Disk), IsReady root d →
      (∀ p, previous = some p → IsGenerated p) →
        (∃ d', Filing.outcome (runScans root previous steps) d =
          (.ok (reportsFrom previous steps), d')) ∨
        (∃ d', Filing.outcome (runScans root previous steps) d =
          (.error (.fault (.integerTooLong 0)), d')) ∧
          ∃ (k : Nat) (p : Report) (s : ScanStep),
            (previous :: (reportsFrom previous steps).map some)[k]? = some (some p) ∧
            steps[k]? = some s ∧ IsStuck p s.handover := by
  induction steps with
  | nil => exact fun _ d _ _ => Or.inl ⟨d, rfl⟩
  | cons s rest ih =>
      intro previous d hd h
      rw [runScans]
      rcases outcome_handOver root d hd previous h s.handover with
        ⟨d', hd', hhanded⟩ | ⟨⟨d', hfails⟩, p, hp, hstuck⟩
      · rw [Filing.outcome_bind _ _ d d' previous hhanded]
        have hnext : ∀ p, some (s.report previous) = some p → IsGenerated p := by
          intro p hp
          rw [← Option.some.inj hp]
          exact isGenerated_report s previous h
        rcases ih (some (s.report previous)) d' hd' hnext with
          ⟨d'', hrest⟩ | ⟨⟨d'', hfails⟩, k, p, t, hp, ht, hstuck⟩
        · refine Or.inl ⟨d'', ?_⟩
          rw [Filing.outcome_bind _ _ d' d'' _ hrest]
          rfl
        · refine Or.inr ⟨⟨d'', Filing.outcome_bind_error _ _ d' d'' _ hfails⟩, k + 1, p, t, ?_, ?_,
            hstuck⟩
          · rw [List.getElem?_cons_succ, reportsFrom, List.map_cons]
            exact hp
          · rw [List.getElem?_cons_succ]
            exact ht
      · refine Or.inr ⟨⟨d', Filing.outcome_bind_error _ _ d d' _ hfails⟩, 0, p, s, ?_, rfl, hstuck⟩
        rw [List.getElem?_cons_zero, hp]

/-- Every report of a series of scans on a disk accounts for all scans so far, whatever the
    way in which each report reached the next scan. The series comes to its end unless a
    report that is to be saved cannot be written. -/
theorem history_of_runScans (d made : Disk) (root : String) (fs : List (String × List UInt8))
    (h : ReportStore.Keeps d root made fs) (steps : List ScanStep) :
    ((∃ d', Filing.outcome (runScans root none steps) d =
        (.ok (reportsFrom none steps), d')) ∨
      (∃ d', Filing.outcome (runScans root none steps) d =
        (.error (.fault (.integerTooLong 0)), d')) ∧
        ∃ (k : Nat) (p : Report) (s : ScanStep), (reportsFrom none steps)[k]? = some p ∧
          steps[k + 1]? = some s ∧
          IsStuck p s.handover) ∧
    (reportsFrom none steps).length = steps.length ∧
    (∀ k s r, steps[k]? = some s → (reportsFrom none steps)[k]? = some r →
      ∃ closed, Accounts (steps.take k) s r closed) ∧
    (∀ r, (reportsFrom none steps)[0]? = some r → r.previousId = .null) ∧
    (∀ k p r, (reportsFrom none steps)[k]? = some p →
      (reportsFrom none steps)[k + 1]? = some r → r.previousId = .text p.id) := by
  refine ⟨?_, length_reportsFrom steps none, fun k s r hs hr => ?_, fun r hr => ?_,
    previousId_reportsFrom steps none⟩
  · have hnone : ∀ p, none = some p → IsGenerated p :=
      fun p hp => absurd hp (Option.some_ne_none p).symm
    rcases outcome_runScans root steps none d ⟨made, fs, h⟩ hnone with
      hends | ⟨hfails, k, p, s, hp, hs, hstuck⟩
    · exact Or.inl hends
    · refine Or.inr ⟨hfails, ?_⟩
      cases k with
      | zero =>
          rw [List.getElem?_cons_zero] at hp
          exact nomatch hp
      | succ k =>
          rw [List.getElem?_cons_succ, List.getElem?_map, Option.map_eq_some_iff] at hp
          rcases hp with ⟨q, hq, heq⟩
          rw [Option.some.inj heq] at hq
          exact ⟨k, p, s, hq, hs, hstuck⟩
  · exact exists_accounts_reportsFrom steps [] none rfl k s r hs hr
  · cases steps with
    | nil => exact nomatch hr
    | cons s rest =>
        rw [reportsFrom, List.getElem?_cons_zero, Option.some.injEq] at hr
        rw [← hr]
        rfl

/-! ## A small series -/

/-- A scan of a small project. -/
def smallScan (now : Int) (fingerprints : List String) (way : Handover) : ScanStep :=
  { path := "/p", name := "demo",
    result := { findings := fingerprints.map ReportStore.smallFinding },
    now, number := 7, handover := way }

/-- A finding comes up twice, goes away, and comes up again. -/
def smallSeries : List ScanStep :=
  [smallScan 1000 ["f", "f"] .memory, smallScan 2000 [] .store, smallScan 3000 ["f"] .store]

theorem history_of_runScans_small :
    ∃ made, ReportStore.Keeps ReportStore.smallDisk "/p" made [] ∧
      (∃ d', Filing.outcome (runScans "/p" none smallSeries) ReportStore.smallDisk =
        (.ok (reportsFrom none smallSeries), d')) ∧
      ∃ r closed, (reportsFrom none smallSeries)[2]? = some r ∧
        Accounts (smallSeries.take 2) (smallScan 3000 ["f"] .store) r closed ∧
        r.findings.map (fun f => (f.status, f.firstDetected, f.lastDetected)) =
          [(some .persistent, .int 1000, .int 3000)] := by
  rcases ReportStore.exists_keeps_small with ⟨made, hmade⟩
  have hforms : ((reportsFrom none smallSeries).all fun p => (ReportStore.formOf p).isOk) = true :=
    by rfl
  have hhistory := history_of_runScans ReportStore.smallDisk made "/p" [] hmade smallSeries
  have hthird : (reportsFrom none smallSeries)[2]? = some ((smallScan 3000 ["f"] .store).report
      (some ((smallScan 2000 [] .store).report
        (some ((smallScan 1000 ["f", "f"] .memory).report none))))) := rfl
  rcases hhistory.2.2.1 2 (smallScan 3000 ["f"] .store) _ rfl hthird with ⟨closed, hclosed⟩
  refine ⟨made, hmade, hhistory.1.resolve_right fun hfails => ?_, _, closed, hthird, hclosed, rfl⟩
  rcases hfails with ⟨_, k, p, s, hp, _, hstuck⟩
  have hform := List.all_eq_true.mp hforms p (List.mem_of_getElem? hp)
  rw [hstuck.2] at hform
  exact Bool.noConfusion hform

end CodeAudit
