import CodeAudit.Proofs.CommandLine.Reporting
import CodeAudit.Proofs.Scan.Filtering
import CodeAudit.Proofs.Tracking.Scans

/-!
# Disabling Rules

What it does to disable rules on the command line.

The ids that the user gives take the place of those that the configuration disables, and the other
fields stay as they are. Among them is the list of enabled rules. If the configuration has one, only
the rules in it are resolved, whatever is disabled, so there the flag makes no difference at all. If
it has none, the flag takes away the rules with the given ids and no others. Both cases are read off
`keeps_override_iff`.

A finding of a report that is new or persists is one of the scan, with its state and times set, and
so it shows the id of a rule that was resolved. Only findings that are closed can show the id of a
rule that is disabled: they are taken over from the report before.

## Theorems

* `keeps_override_iff`: Which ids the options of a scan let through.
* `ruleId_of_mem_trackSince`: A finding that is not closed shows the rule of one of the scan.
* `exists_rule_of_makes`: The rule of a finding of a report.
* `disabled_rules_of_scan`: Disabled rules are not resolved and have no new findings, but for those
  that the configuration enables.
* `not_disabled_of_enabled`: A rule that is enabled is not disabled by the flag.
-/

namespace CodeAudit

/-- Options that disable rules and enable none let through what the configuration enables, and if it
    has no such list, what they do not disable. -/
theorem keeps_override_iff (o : ScanOptions) (ids : List String)
    (hdisable : o.disableRules = some ids) (henable : o.enableRules = none) (c : Config)
    (id : String) :
    (o.override c).keeps id = true ↔
      (c.enabledRules = [] ∧ id ∉ ids) ∨ id ∈ c.enabledRules := by
  have henabled : (o.override c).enabledRules = c.enabledRules := by
    rw [ScanOptions.override, henable, Option.getD_none]
  have hdisabled : (o.override c).disabledRules = ids := by
    rw [ScanOptions.override, hdisable, Option.getD_some]
  rw [Config.keeps, henabled, hdisabled]
  -- A list of rules to enable makes the other one meaningless, so it matters whether it is
  -- empty.
  by_cases hnone : c.enabledRules = []
  · rw [hnone, List.isEmpty_nil, if_pos rfl, Bool.not_eq_true', ← Bool.not_eq_true,
      List.contains_iff_mem, or_iff_left List.not_mem_nil, and_iff_right rfl]
  · rw [if_neg fun h => hnone (List.isEmpty_iff.mp h), List.contains_iff_mem,
      or_iff_right fun h => hnone h.1]

/-- If the configuration enables rules, it makes no difference which rules are disabled. -/
theorem resolveRules_of_enabled (p : Package) (d : Disk) (root : String) (o : ScanOptions)
    (henable : o.enableRules = none) (c : Config) (h : c.enabledRules ≠ []) :
    resolveRules p d root (o.override c) =
      resolveRules p d root ({ o with disableRules := none }.override c) := by
  have hkeeps : (o.override c).keeps = ({ o with disableRules := none }.override c).keeps := by
    funext id
    have hsome : c.enabledRules.isEmpty ≠ true := fun hnil => h (List.isEmpty_iff.mp hnil)
    rw [Config.keeps, Config.keeps, ScanOptions.override, ScanOptions.override, henable]
    dsimp only [Option.getD_none]
    rw [if_neg hsome, if_neg hsome]
  have hfilter : filterRules (o.override c) =
      filterRules ({ o with disableRules := none }.override c) := by
    funext rules
    rw [filterRules, filterRules, hkeeps]
    rfl
  rw [resolveRules, resolveRules, hfilter]
  rfl

/-- A finding of a report that is not closed is one of the scan, but for its state and its times. -/
theorem ruleId_of_mem_trackSince (previous : Option Report) (current : List Finding) (now : Int)
    (f : Finding) (hf : f ∈ trackSince previous current now) :
    f.status = some .closed ∨ ∃ g ∈ current, f.ruleId = g.ruleId := by
  cases previous with
  | none =>
      rcases List.mem_map.mp hf with ⟨g, hg, rfl⟩
      exact Or.inr ⟨g, hg, rfl⟩
  | some r =>
      -- What is gone stands in the report as closed, and all else is a finding of the scan.
      rcases List.mem_append.mp hf with hcurrent | hgone
      · rcases List.mem_map.mp hcurrent with ⟨g, hg, rfl⟩
        refine Or.inr ⟨g, hg, ?_⟩
        rw [trackOne]
        split
        · rfl
        · rfl
      · rcases exists_of_mem_closeGone now r.findings _ f hgone with ⟨prior, _, rfl⟩
        exact Or.inl rfl

/-- A finding of a report that is not closed shows the id of a rule that the scan has resolved. -/
theorem exists_rule_of_makes (p : Package) (o : ScanOptions) (stopAt : StopAt) (clock : Clock)
    (w w' : World) (hw : w.scan.matcher.Reached) (r : Report) (s : ScanResult)
    (h : o.Makes p stopAt clock w r s w') :
    ∃ c log, (o.resolve w.disk).run.run w.scan.log = (.ok c, log) ∧
      ∀ f ∈ r.findings, f.status ≠ some .closed →
        ∃ every, Loads p w.disk o.path c every ∧ ∃ rule ∈ filterRules c every,
          f.ruleId = rule.id := by
  rcases h with ⟨hroot, c, log, hresolve, hscan⟩
  refine ⟨c, log, hresolve, fun f hf hopen => ?_⟩
  rcases exists_of_executeScan p o.path _ c stopAt clock (w.withLog log) w' r s hroot hscan with
    ⟨previous, _, _, _, t, t', _, _, ht, hsearch, hr, _⟩
  rw [hr] at hf
  -- A closed finding may be of a rule that is not resolved any more, so only the others are
  -- spoken of.
  rcases ruleId_of_mem_trackSince previous s.findings clock.now f hf with hclosed | ⟨g, hg, hid⟩
  · exact absurd hclosed hopen
  · have hreached : t.matcher.Reached := ht ▸ hw
    rcases cases_of_scan p _ o.path c stopAt clock.elapsed t t' hreached s hsearch with
      ⟨hno, _⟩ | ⟨_, every, harvest, hevery, hharvest, heq⟩
    -- Without its folder nothing is scanned, which was ruled out.
    · exact Bool.noConfusion (hroot.symm.trans hno)
    · rw [heq] at hg
      rcases exists_rule_of_mem_harvest _ o.path _ _ harvest hharvest g hg with
        ⟨rule, hrule, hg, _⟩
      exact ⟨every, hevery, rule, hrule, hid.trans hg⟩

/-- Rules that are disabled on the command line, where it enables none, do not run, unless the
    configuration of the project enables them. If the configuration enables no rules, exactly those
    with other ids are resolved, as far as they are serious enough, and no finding that is new or
    persists shows one of the ids. If it does, those that it enables are resolved, as they are
    without the flag. -/
theorem disabled_rules_of_scan (o : ScanOptions) (ids : List String)
    (hdisable : o.disableRules = some ids) (henable : o.enableRules = none) (p : Package)
    (w : World) (hw : w.scan.matcher.Reached) (c : Config) (log : Log)
    (hload : (Config.load w.disk o.configPath).run.run w.scan.log = (.ok c, log)) :
    (∀ log' rules, ((resolveRules p w.disk o.path (o.override c)).run.run log').1 = .ok rules →
      (∀ rule ∈ rules, rule.id ∈ ids → rule.id ∈ c.enabledRules) ∧
      ∃ every, Loads p w.disk o.path (o.override c) every ∧ ∀ rule, rule ∈ rules ↔ rule ∈ every ∧
        ((c.enabledRules = [] ∧ rule.id ∉ ids) ∨ rule.id ∈ c.enabledRules) ∧
          rule.severity.atLeast (o.override c).minSeverity = true) ∧
    (∀ stopAt clock r s w', o.Makes p stopAt clock w r s w' → ∀ f ∈ r.findings,
      f.status = some .new ∨ f.status = some .persistent →
        f.ruleId ∈ ids → f.ruleId ∈ c.enabledRules) ∧
    (c.enabledRules ≠ [] → resolveRules p w.disk o.path (o.override c) =
      resolveRules p w.disk o.path ({ o with disableRules := none }.override c)) := by
  have hkeeps := keeps_override_iff o ids hdisable henable c
  have hmem : ∀ every rule, rule ∈ filterRules (o.override c) every ↔ rule ∈ every ∧
      ((c.enabledRules = [] ∧ rule.id ∉ ids) ∨ rule.id ∈ c.enabledRules) ∧
        rule.severity.atLeast (o.override c).minSeverity = true := by
    intro every rule
    rw [filterRules, List.mem_filter, Bool.and_eq_true, hkeeps]
  have hspared : ∀ every, ∀ rule ∈ filterRules (o.override c) every,
      rule.id ∈ ids → rule.id ∈ c.enabledRules := by
    intro every rule hrule hid
    exact ((hmem every rule).mp hrule).2.1.resolve_left fun hkept => hkept.2 hid
  refine ⟨fun log' rules hrules => ?_, fun stopAt clock r s w' hmakes f hf hopen hid => ?_,
    resolveRules_of_enabled p w.disk o.path o henable c⟩
  · rcases exists_of_resolveRules p w.disk o.path _ log' rules hrules with ⟨every, hevery, rfl⟩
    exact ⟨hspared every, every, hevery, hmem every⟩
  · rcases exists_rule_of_makes p o stopAt clock w w' hw r s hmakes with
      ⟨c', log', hresolve, hrule⟩
    rw [run_resolve, hload, Prod.mk.injEq, Except.ok.injEq] at hresolve
    rw [← hresolve.1] at hrule
    -- Both states that are spoken of are states of findings that are there.
    have hnot : f.status ≠ some .closed := by
      rcases hopen with h | h
      · rw [h]
        decide
      · rw [h]
        decide
    rcases hrule f hf hnot with ⟨every, _, rule, hmem, heq⟩
    rw [heq] at hid ⊢
    exact hspared every rule hmem hid

/-- What is given where the rule for a letter is disabled. -/
def disablingOptions : ScanOptions :=
  { path := "/p", disableRules := some ["L"] }

/-- Where the flag is given twice, the second list takes the place of the first. -/
example : Invocation.read ["scan", "/p", "--disable-rule", "M", "N", "--disable-rule", "L"] =
    .ok ⟨false, .scan disablingOptions⟩ := by decide +kernel

/-- The disabled rule has no finding, and the other rule has. -/
theorem disabled_rules_of_scan_letters :
    Invocation.read ["scan", "/p", "--disable-rule", "L"] = .ok ⟨false, .scan disablingOptions⟩ ∧
    ∃ r s w', disablingOptions.Makes lettersPackage none ⟨1000, 0⟩ (World.ofDisk lettersDisk 1000)
        r s w' ∧
      r.findings.map (fun f => (f.status, f.ruleId)) = [(some .new, "M")] ∧
      ∀ f ∈ r.findings, f.status = some .new ∨ f.status = some .persistent →
        f.ruleId ∈ ["L"] → f.ruleId ∈ Config.standard.enabledRules := by
  have hread : Invocation.read ["scan", "/p", "--disable-rule", "L"] =
      .ok ⟨false, .scan disablingOptions⟩ := by decide +kernel
  have hload : (Config.load lettersDisk disablingOptions.configPath).run.run [] =
      (.ok .standard, [.noConfigFile "/p/.securecode/config.yaml"]) := by rfl
  have hfolder : lettersDisk.isFolder disablingOptions.path = true := by decide +kernel
  rcases exists_run_of_toOption_map
    ((executeScan lettersPackage "/p" (projectName lettersDisk "/p" none)
      (disablingOptions.override .standard) none ⟨1000, 0⟩).run.run
        ((World.ofDisk lettersDisk 1000).withLog [.noConfigFile "/p/.securecode/config.yaml"]))
    (fun r => r.1.findings.map fun f => (f.status, f.ruleId)) [(some .new, "M")]
    (by decide +kernel) with ⟨⟨r, s⟩, w', hscan, hfindings⟩
  have hresolve : (disablingOptions.resolve lettersDisk).run.run [] =
      (.ok (disablingOptions.override .standard), [.noConfigFile "/p/.securecode/config.yaml"]) := by
    rw [run_resolve, hload]
  have hmakes : disablingOptions.Makes lettersPackage none ⟨1000, 0⟩
      (World.ofDisk lettersDisk 1000) r s w' := ⟨hfolder, _, _, hresolve, hscan⟩
  have hall := disabled_rules_of_scan disablingOptions ["L"] rfl rfl lettersPackage
    (World.ofDisk lettersDisk 1000) .start .standard _ hload
  exact ⟨hread, r, s, w', hmakes, hfindings, hall.2.1 none ⟨1000, 0⟩ r s w' hmakes⟩

/-! ## A rule that is enabled -/

/-- A project with a rule of its own about a letter, which its configuration enables, and with a
    file in which the letter stands. -/
def enabledProject : Disk where
  root := .folder [("p", .folder
    [("a.py", .file (Utf8.encode "x".toList)),
     (".securecode", .folder
      [("config.yaml", .file (Utf8.encode "enabledRules: [L]\n".toList)),
       ("rules", .folder [("l.yaml", .file (Utf8.encode
         ("id: L\nname: N\ndescription: D\nseverity: high\ncategory: quality\n" ++
          "patterns:\n- pattern: x\n").toList))])])])]
  cwd := []

/-- A rule that the configuration enables is resolved although the command line disables it, and it
    has a new finding. -/
theorem not_disabled_of_enabled :
    Invocation.read ["scan", "/p", "--disable-rule", "L"] = .ok ⟨false, .scan disablingOptions⟩ ∧
    (∃ c log, (Config.load enabledProject disablingOptions.configPath).run.run [] = (.ok c, log) ∧
      ∃ rules, ((resolveRules .builtin enabledProject "/p"
        (disablingOptions.override c)).run.run log).1 = .ok rules ∧ rules.map Rule.id = ["L"]) ∧
    ∃ r s w', disablingOptions.Makes .builtin none ⟨1000, 0⟩ (World.ofDisk enabledProject 1000)
        r s w' ∧
      r.findings.map (fun f => (f.status, f.ruleId)) = [(some .new, "L")] := by
  have hread : Invocation.read ["scan", "/p", "--disable-rule", "L"] =
      .ok ⟨false, .scan disablingOptions⟩ := by decide +kernel
  have hfolder : enabledProject.isFolder disablingOptions.path = true := by decide +kernel
  have hload : (Config.load enabledProject disablingOptions.configPath).run.run [] =
      (.ok { Config.standard with enabledRules := ["L"] }, []) := by
    rcases exists_run_of_toOption_map
      ((Config.load enabledProject disablingOptions.configPath).run.run []) id
      { Config.standard with enabledRules := ["L"] } (by decide +kernel) with ⟨c, log, hrun, hc⟩
    have hlog : ((Config.load enabledProject disablingOptions.configPath).run.run []).2.isEmpty =
        true := by decide +kernel
    rw [hrun, List.isEmpty_iff] at hlog
    rw [hrun, ← hlog, ← hc]
    rfl
  rcases exists_of_toOption_map
    ((resolveRules .builtin enabledProject "/p" (disablingOptions.override
      { Config.standard with enabledRules := ["L"] })).run.run []).1 (List.map Rule.id) ["L"]
    (by decide +kernel) with ⟨rules, hrules, hids⟩
  rcases exists_run_of_toOption_map
    ((executeScan .builtin "/p" (projectName enabledProject "/p" none)
      (disablingOptions.override { Config.standard with enabledRules := ["L"] }) none
      ⟨1000, 0⟩).run.run (World.ofDisk enabledProject 1000))
    (fun r => r.1.findings.map fun f => (f.status, f.ruleId)) [(some .new, "L")]
    (by decide +kernel) with ⟨⟨r, s⟩, w', hscan, hfindings⟩
  have hresolve : (disablingOptions.resolve enabledProject).run.run [] =
      (.ok (disablingOptions.override { Config.standard with enabledRules := ["L"] }), []) := by
    rw [run_resolve, hload]
  exact ⟨hread, ⟨_, _, hload, rules, hrules, hids⟩, r, s, w', ⟨hfolder, _, _, hresolve, hscan⟩,
    hfindings⟩

end CodeAudit
