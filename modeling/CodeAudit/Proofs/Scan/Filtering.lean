import CodeAudit.Proofs.Scan.Reported
import Mathlib.Data.List.Nodup

/-!
# Filtered Scans

That the filters of a configuration can be applied before a scan or after it.

Leaving out a rule takes its findings away. It could do more: findings are numbered among those
like them, and their numbers are part of their identity, so a finding that is taken away could
renumber others. Findings that are alike have the same rule, and rules are let through or left out
by id and severity. So nothing is renumbered as long as the id alone says what happens to a rule,
which is `letsThrough_eq`, for rules with different ids.

Reading the files does not depend on the rules, so the counts and the files that cannot be read are
the same.

## Main definitions

* `Config.keepsFinding`: A finding is kept by the filters of a configuration.
* `Config.unfiltered`: A configuration without its filters.
* `Loads`: The enabled rules that are loaded for a project.

## Theorems

* `letsThrough_eq`: The id of a rule says whether it is let through.
* `fileFindings_filter`: Rules that are left out take their findings with them.
* `cases_of_scan`: What a scan that returns has found.
* `findings_of_filter`: Filtering before a scan and after it is the same.
-/

namespace CodeAudit

/-- A finding is kept by the filters of a configuration. -/
def Config.keepsFinding (c : Config) (f : Finding) : Bool :=
  c.keeps f.ruleId && f.severity.atLeast c.minSeverity

/-- A configuration without its filters. -/
def Config.unfiltered (c : Config) : Config :=
  { c with enabledRules := [], disabledRules := [], minSeverity := .info }

/-- The enabled rules that are loaded for a project. What has been told before does not matter. -/
def Loads (p : Package) (d : Disk) (root : String) (c : Config) (every : List Rule) : Prop :=
  ∀ log, ((allRules p d (some (customFolder root c))).run.run log).1 = .ok every

/-! ## Rules -/

/-- Without filters every rule is let through. -/
theorem filterRules_unfiltered (c : Config) (rules : List Rule) :
    filterRules c.unfiltered rules = rules := by
  refine List.filter_eq_self.mpr fun r _ => ?_
  simp [Config.keeps, Config.unfiltered, Severity.atLeast, Severity.rank]

/-- Some rule with an id is let through. -/
def Config.letsThrough (c : Config) (every : List Rule) (id : String) : Bool :=
  (filterRules c every).any fun r => r.id == id

/-- Among rules with different ids, the id alone says whether a rule is let through. -/
theorem letsThrough_eq (c : Config) (every : List Rule) (hids : (every.map Rule.id).Nodup)
    (r : Rule) (hr : r ∈ every) :
    c.letsThrough every r.id = (c.keeps r.id && r.severity.atLeast c.minSeverity) := by
  rw [Bool.eq_iff_iff, Config.letsThrough, List.any_eq_true]
  constructor
  -- The rule that is let through under the id is the rule itself, for ids do not repeat.
  · rintro ⟨r', hr', hid⟩
    rw [filterRules, List.mem_filter] at hr'
    have hsame := List.inj_on_of_nodup_map hids hr'.1 hr (beq_iff_eq.mp hid)
    rw [← hsame]
    exact hr'.2
  · intro hkept
    exact ⟨r, List.mem_filter.mpr ⟨hr, hkept⟩, beq_self_eq_true r.id⟩

/-- The rules that are let through are told by their ids. -/
theorem filterRules_eq (c : Config) (every : List Rule) (hids : (every.map Rule.id).Nodup) :
    filterRules c every = every.filter fun r => c.letsThrough every r.id :=
  List.filter_congr fun r hr => (letsThrough_eq c every hids r hr).symm

/-! ## Files -/

/-- A finding shows the id and the severity of its rule. -/
theorem rule_of_ruleFindings (path : String) (content : Pattern.Subject) (rule : Rule)
    (found : List Finding) (h : ruleFindings path content rule = .ok found) :
    ∀ f ∈ found, f.ruleId = rule.id ∧ f.severity = rule.severity := by
  intro f hf
  rcases exists_of_mem_ruleFindings path content rule found h f hf with
    ⟨_, _, _, _, _, _, _, _, _, heq⟩
  rw [heq]
  exact ⟨rfl, rfl⟩

section

variable (keep : String → Bool)

/-- Rules that are left out take their findings with them. -/
theorem fileFindings_filter (path : String) (content : Pattern.Subject) (rules : List Rule) :
    ∀ found, fileFindings path content rules = .ok found →
      fileFindings path content (rules.filter fun r => keep r.id) =
        .ok (found.filter fun f => keep f.ruleId) := by
  induction rules with
  | nil =>
      intro found h
      rw [← Except.ok.inj h]
      rfl
  | cons rule rest ih =>
      intro found h
      rw [fileFindings, collect_cons] at h
      rcases exists_of_bind_ok _ _ _ h with ⟨here, hhere, h⟩
      rcases exists_of_bind_ok _ _ _ h with ⟨more, hmore, h⟩
      -- All findings of one rule stand or fall with its id.
      have hids := rule_of_ruleFindings path content rule here hhere
      rw [← Except.ok.inj h, List.filter_append, List.filter_cons]
      cases hkeep : keep rule.id with
      | true =>
          have hown : here.filter (fun f => keep f.ruleId) = here :=
            List.filter_eq_self.mpr fun f hf => by rw [(hids f hf).1, hkeep]
          have hothers := ih more hmore
          unfold fileFindings at hothers ⊢
          rw [if_pos rfl, collect_cons, hhere, ok_bind, hown, hothers, ok_bind]
      | false =>
          have hnone : here.filter (fun f => keep f.ruleId) = [] :=
            List.filter_eq_nil_iff.mpr fun f hf => by rw [(hids f hf).1, hkeep]; simp
          rw [if_neg (by simp), hnone, List.nil_append]
          exact ih more hmore

/-- The harvest without the findings of rules that are left out. -/
theorem harvestOf_filter (d : Disk) (root : String) (rules : List Rule) (files : List String) :
    ∀ h, harvestOf d root rules files = .ok h →
      harvestOf d root (rules.filter fun r => keep r.id) files =
        .ok { h with findings := h.findings.filter fun f => keep f.ruleId } := by
  induction files with
  | nil =>
      intro h hok
      rw [← Except.ok.inj hok]
      rfl
  | cons path rest ih =>
      intro h hok
      rw [harvestOf] at hok
      rcases exists_of_bind_ok _ _ _ hok with ⟨result, hresult, hok⟩
      rcases exists_of_bind_ok _ _ _ hok with ⟨more, hmore, hok⟩
      rw [harvestOf, ih more hmore, ← Except.ok.inj hok]
      unfold fileResult at hresult ⊢
      -- Reading a file does not depend on the rules, so both harvests go through the same case.
      cases hread : Source.read d path with
      | error t =>
          rw [hread] at hresult
          rw [← Except.ok.inj hresult]
          rfl
      | ok cs =>
          rw [hread] at hresult
          rcases exists_of_bind_ok _ _ _ hresult with ⟨found, hfound, hresult⟩
          have hkept := fileFindings_filter keep _ _ rules found hfound
          simp only [hkept, ok_bind, ← Except.ok.inj hresult, Harvest.add, List.filter_append]

end

/-! ## Scans -/

/-- A scan that returns had no project, or has found what the files give with the loaded rules that
    are let through. -/
theorem cases_of_scan (p : Package) (d : Disk) (root : String) (c : Config) (stopAt : StopAt)
    (duration : Int) (s s' : ScanState) (hs : s.matcher.Reached) (r : ScanResult)
    (hrun : (scan p d root c stopAt duration).run.run s = (.ok r, s')) :
    d.isFolder root = false ∧ r = {} ∨
      d.isFolder root = true ∧ ∃ every h, Loads p d root c every ∧
        harvestOf d root (filterRules c every) (selectFiles d root c.includes c.excludes) =
          .ok h ∧
        r = { findings := assignFingerprints h.findings,
              rulesExecuted := (filterRules c every).length,
              filesScanned := (selectFiles d root c.includes c.excludes).length,
              linesScanned := h.lines, duration, failedFiles := h.failed } := by
  cases hroot : d.isFolder root with
  | false =>
      rw [scan, if_neg (by simp [hroot])] at hrun
      exact Or.inl ⟨rfl, (Except.ok.inj (Prod.mk.inj hrun).1).symm⟩
  | true =>
      rcases run_scan p d root c stopAt duration s hs.faithful with ⟨result, _, hscan, _, hresult⟩
      rw [hrun, Prod.mk.injEq] at hscan
      rcases hresult hroot r hscan.1.symm with ⟨rules, h, hrules, hharvest, hr⟩
      rcases exists_of_resolveRules p d root c s.log rules hrules with ⟨every, hevery, rfl⟩
      exact Or.inr ⟨rfl, every, h, hevery, hharvest, hr⟩

/-- The rule of a finding. -/
theorem exists_rule_of_mem_harvest (d : Disk) (root : String) (rules : List Rule)
    (files : List String) (h : Harvest) (hharvest : harvestOf d root rules files = .ok h)
    (f : Finding) (hf : f ∈ assignFingerprints h.findings) :
    ∃ rule ∈ rules, f.ruleId = rule.id ∧ f.severity = rule.severity := by
  rcases exists_of_mem_assignFingerprints _ f hf with ⟨g, hg, ordinal, rfl⟩
  rw [findings_of_harvestOf d root rules files h hharvest, List.mem_flatMap] at hg
  rcases hg with ⟨path, _, hg⟩
  rcases exists_of_mem_foundAt d root rules path g hg with ⟨_, _, _, rule, hrule, hob⟩
  rcases hob.found with ⟨_, _, _, _, _, _, _, _, heq⟩
  exact ⟨rule, hrule, congrArg Finding.ruleId heq, congrArg Finding.severity heq⟩

/-- Filtering the rules before a scan and the findings after it is the same. If the enabled rules
    that are loaded have different ids and both scans return, the scan with filters finds what the
    scan without them finds and the filters keep, in the same order and with the same fingerprints.
    A finding has the id and the severity of a loaded rule. The files and lines that are counted and
    the files that cannot be read are the same. -/
theorem findings_of_filter (p : Package) (d : Disk) (root : String) (c : Config)
    (hids : ∀ every, Loads p d root c every → (every.map Rule.id).Nodup)
    (stopAt stopAt₀ : StopAt) (duration duration₀ : Int) (s s' s₀ s₀' : ScanState)
    (hs : s.matcher.Reached) (hs₀ : s₀.matcher.Reached) (r r₀ : ScanResult)
    (hrun : (scan p d root c stopAt duration).run.run s = (.ok r, s'))
    (hrun₀ : (scan p d root c.unfiltered stopAt₀ duration₀).run.run s₀ = (.ok r₀, s₀')) :
    r.findings = r₀.findings.filter c.keepsFinding ∧
      (∀ f ∈ r₀.findings, ∃ every, Loads p d root c every ∧ ∃ rule ∈ every,
        f.ruleId = rule.id ∧ f.severity = rule.severity) ∧
      r.filesScanned = r₀.filesScanned ∧ r.linesScanned = r₀.linesScanned ∧
      r.failedFiles = r₀.failedFiles := by
  rcases cases_of_scan p d root c stopAt duration s s' hs r hrun with
    ⟨hroot, hr⟩ | ⟨hroot, every, h, hevery, hharvest, hr⟩
  · rcases cases_of_scan p d root _ stopAt₀ duration₀ s₀ s₀' hs₀ r₀ hrun₀ with
      ⟨_, hr₀⟩ | ⟨hroot₀, _⟩
    · rw [hr, hr₀]
      exact ⟨rfl, fun f hf => absurd hf List.not_mem_nil, rfl, rfl, rfl⟩
    · rw [hroot] at hroot₀
      exact Bool.noConfusion hroot₀
  · rcases cases_of_scan p d root _ stopAt₀ duration₀ s₀ s₀' hs₀ r₀ hrun₀ with
      ⟨hroot₀, _⟩ | ⟨_, every₀, h₀, hevery₀, hharvest₀, hr₀⟩
    · rw [hroot] at hroot₀
      exact Bool.noConfusion hroot₀
    · -- Both scans load the same rules, since the filters do not change where they come from.
      have hsame : every₀ = every := Except.ok.inj ((hevery₀ []).symm.trans (hevery []))
      subst hsame
      have hnodup := hids every₀ hevery
      -- The files give the same harvest but for the findings of rules that are left out.
      rw [filterRules_unfiltered] at hharvest₀
      have hfiltered := harvestOf_filter (c.letsThrough every₀) d root every₀ _ h₀ hharvest₀
      rw [← filterRules_eq c every₀ hnodup] at hfiltered
      have hh := Except.ok.inj (hharvest.symm.trans hfiltered)
      have hrule := exists_rule_of_mem_harvest d root every₀ _ h₀ hharvest₀
      -- Findings that are alike have one rule, so filtering renumbers none of them.
      have hnumbers := filter_assignFingerprints (fun l => c.letsThrough every₀ l.1) h₀.findings
      rw [hr, hr₀, hh]
      refine ⟨?_, fun f hf => ⟨every₀, hevery, hrule f hf⟩, rfl, rfl, rfl⟩
      refine hnumbers.symm.trans (List.filter_congr fun f hf => ?_)
      rcases hrule f hf with ⟨rule, hmem, hid, hseverity⟩
      rw [Config.keepsFinding, hid, hseverity]
      dsimp only [Finding.likeness]
      rw [hid]
      exact letsThrough_eq c every₀ hnodup rule hmem

/-! ## Two rules -/

/-- A project of one file, with two letters of one kind and one of another between them. -/
def lettersDisk : Disk where
  root := .folder [("p", .folder [("a.py", .file (Utf8.encode "xyx".toList))])]
  cwd := []

/-- The package of two rules, which object to letters. The second one is more serious. -/
def lettersPackage : Package :=
  .files [("l.yaml", .ok letterPackage.letterRule), ("m.yaml", .ok seriousRule)]
where
  /-- The second rule. -/
  seriousRule : Rule :=
    { letterPackage.letterRule with
      id := "M", severity := .high, patterns := [⟨.regex, "y", [], none⟩] }

/-- What a first scan of the project gives, and what it leaves. -/
def lettersScan (c : Config) : Except Failure ScanResult × ScanState :=
  (scan lettersPackage lettersDisk "/p" c none 0).run.run (World.ofDisk lettersDisk 0).scan

/-- The lesser rule is left out with its two findings, and the other finding stays as it was. -/
theorem findings_of_filter_letters : ∃ r r₀ : ScanResult,
    r.findings.map Finding.ruleId = ["M"] ∧ r₀.findings.map Finding.ruleId = ["L", "L", "M"] ∧
      r.findings = r₀.findings.filter
        { Config.standard with minSeverity := .medium }.keepsFinding := by
  have hids : ∀ every, Loads lettersPackage lettersDisk "/p"
      { Config.standard with minSeverity := .medium } every → (every.map Rule.id).Nodup := by
    intro every hevery
    have hsame : [letterPackage.letterRule, lettersPackage.seriousRule] = every :=
      Except.ok.inj ((rfl : Except.ok _ = _).trans (hevery []))
    rw [← hsame]
    decide
  rcases exists_run_of_toOption_map
    (lettersScan { Config.standard with minSeverity := .medium })
    (fun r => r.findings.map Finding.ruleId) ["M"] (by decide +kernel) with ⟨r, s, hrun, hr⟩
  rcases exists_run_of_toOption_map
    (lettersScan { Config.standard with minSeverity := .medium }.unfiltered)
    (fun r => r.findings.map Finding.ruleId) ["L", "L", "M"] (by decide +kernel) with
    ⟨r₀, s₀, hrun₀, hr₀⟩
  have hfilter := findings_of_filter lettersPackage lettersDisk "/p" _ hids none none 0 0 _ s _ s₀
    .start .start r r₀ hrun hrun₀
  exact ⟨r, r₀, hr, hr₀, hfilter.1⟩

end CodeAudit
