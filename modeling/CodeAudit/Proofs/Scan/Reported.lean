import CodeAudit.Proofs.Pattern.Spans
import CodeAudit.Proofs.Scan.Locality
import CodeAudit.Proofs.Text.Lines

/-!
# Reported Texts

That a reported text stands where it is reported.

A finding is made of a span of the text of a file, and shows a line, a column and a text instead of
it. Nothing behind the search of a file changes them: the findings of the files are collected, and
numbering only adds the fingerprint. So a finding of a scan goes back to a file, to a rule that
applies, and to a span that one of its regular expressions has found there.

The span lies in the text of the file, whatever the regular expression is, and then the line and the
column of its start lead back to it. The path that is shown leads back to the file as well, joined
to the root again.

## Main definitions

* `RulePattern.Suits`: A pattern is meant for a file.
* `ObjectsTo`: A rule objects to a text where a finding says so.

## Theorems

* `standsAt_of_matchAt`: What an occurrence shows stands where it says.
* `exists_of_mem_assignFingerprints`: A numbered finding is a finding with a fingerprint.
* `exists_foundAt_of_scanReturns`: A finding of a scan comes from a selected file.
* `join_relativeTo_of_mem_selectFiles`: The way that is shown for a file leads back to it.
* `reported_text_stands`: The reported text stands where it is reported, and a rule that applies
  objects to it there.
-/

namespace CodeAudit

open Pattern (Span)

/-- A pattern is meant for a file: for every file, or for those whose extension it names, up to
    case and points in front. -/
def RulePattern.Suits (p : RulePattern) (path : String) : Prop :=
  p.fileTypes = [] ∨
    ∃ t ∈ p.fileTypes, Rule.normalFileType t = String.ofList (Path.extension path.toList)

/-- A rule objects to a text where a finding says so: the finding tells of a span that a regular
    expression of the rule has found in the text. It says nothing of the fingerprint. -/
structure ObjectsTo (rule : Rule) (cs : List Char) (f : Finding) : Prop where
  enabled : rule.enabled = true
  found : ∃ p ∈ rule.patterns, p.kind = .regex ∧ p.Suits f.path ∧
    ∃ r, regexOf p.text = .ok (some r) ∧ ∃ span ∈ r.findAll cs.toArray,
      { f with fingerprint := "" } = (matchAt rule p f.path cs span).toFinding

theorem RulePattern.suits_of_appliesTo (p : RulePattern) (path : String)
    (h : p.appliesTo (String.ofList (Path.extension path.toList)) = true) : p.Suits path := by
  rw [appliesTo, Bool.or_eq_true, List.isEmpty_iff, List.any_eq_true] at h
  rcases h with hnone | ⟨t, ht, heq⟩
  · exact .inl hnone
  · exact .inr ⟨t, ht, eq_of_beq heq⟩

/-- What an occurrence shows stands in the text at the line and the column that it shows. -/
theorem standsAt_of_matchAt (rule : Rule) (p : RulePattern) (path : String) (cs : List Char)
    (span : Span) (h : span.Within cs.toArray 0) :
    StandsAt (matchAt rule p path cs span).text.toList cs (matchAt rule p path cs span).line
      (matchAt rule p path cs span).column := by
  have hstop := h.stop
  have horder := h.order
  rw [List.size_toArray] at hstop
  refine standsAt_position cs _ span.start (by omega) ?_
  -- The text that is shown is the span itself, so its length is that of the span.
  have hlength : ((cs.drop span.start).take (span.stop - span.start)).length =
      span.stop - span.start := by
    rw [List.length_take, List.length_drop]
    omega
  simp only [matchAt, String.toList_ofList, hlength]

/-! ## From a finding back to its file -/

theorem exists_of_mem_assignAfter (fs : List Finding) :
    ∀ before, ∀ f ∈ assignAfter before fs, ∃ g ∈ fs, ∃ ordinal, f = g.withOrdinal ordinal := by
  induction fs with
  | nil => exact fun _ f hf => absurd hf List.not_mem_nil
  | cons g rest ih =>
      intro before f hf
      -- The first finding gets its number, and the others are numbered behind it.
      rw [assignAfter, List.mem_cons] at hf
      rcases hf with heq | hrest
      · exact ⟨g, List.mem_cons_self, _, heq⟩
      · rcases ih _ f hrest with ⟨g', hg', hordinal⟩
        exact ⟨g', List.mem_cons_of_mem g hg', hordinal⟩

/-- A finding that has been numbered is a finding with a fingerprint. -/
theorem exists_of_mem_assignFingerprints (fs : List Finding) (f : Finding)
    (h : f ∈ assignFingerprints fs) : ∃ g ∈ fs, ∃ ordinal, f = g.withOrdinal ordinal :=
  exists_of_mem_assignAfter fs [] f h

/-- A finding of a file is about a text that stands in it, where a rule objects to it. -/
theorem exists_of_mem_foundAt (d : Disk) (root : String) (rules : List Rule) (path : String)
    (f : Finding) (h : f ∈ foundAt d root rules path) :
    ∃ cs, Source.read d path = .ok cs ∧ StandsAt f.matched.toList cs f.line f.column ∧
      ∃ rule ∈ rules, ObjectsTo rule cs f := by
  unfold foundAt fileResult at h
  cases hread : Source.read d path with
  | error t =>
      rw [hread] at h
      exact absurd h List.not_mem_nil
  | ok cs =>
      simp only [hread] at h
      cases hfound : fileFindings (d.relativeTo root path) cs.toArray rules with
      | error e =>
          rw [hfound] at h
          exact absurd h List.not_mem_nil
      | ok found =>
          rw [hfound, ok_bind] at h
          rcases exists_of_mem_fileFindings _ _ rules found hfound f h with
            ⟨rule, hrule, henabled, p, hp, happlies, hkind, r, hr, span, hspan, heq⟩
          -- The fingerprint of a finding is empty here, so the finding is the occurrence
          -- itself.
          subst heq
          refine ⟨cs, rfl, ?_, rule, hrule, henabled, p, hp, hkind,
            p.suits_of_appliesTo _ happlies, r, hr, span, hspan, rfl⟩
          exact standsAt_of_matchAt rule p _ cs span (r.within_of_findAll _ span hspan)

/-- A finding of a scan comes from a selected file. Only the fingerprint has been added to it. -/
theorem exists_foundAt_of_scanReturns (d : Disk) (root : String) (c : Config) (rules : List Rule)
    (r : ScanResult) (h : ScanReturns d root c rules r) (f : Finding) (hf : f ∈ r.findings) :
    ∃ path ∈ selectFiles d root c.includes c.excludes, ∃ g ∈ foundAt d root rules path,
      ∃ ordinal, f = g.withOrdinal ordinal := by
  rcases h with ⟨_, p, stopAt, duration, s, s', hreached, hrules, hrun⟩
  by_cases hfolder : d.isFolder root = true
  · rcases run_scan p d root c stopAt duration s hreached.faithful with
      ⟨result, s'', hrun', _, hresult⟩
    rw [hrun, Prod.mk.injEq] at hrun'
    rcases hresult hfolder r hrun'.1.symm with ⟨rules', harvest, hrules', hharvest, heq⟩
    -- The rules of the scan are those that it resolves, since resolving does not depend on
    -- chance.
    rw [hrules, Except.ok.injEq] at hrules'
    subst hrules'
    rw [heq] at hf
    rcases exists_of_mem_assignFingerprints _ f hf with ⟨g, hg, hordinal⟩
    rw [findings_of_harvestOf d root rules _ harvest hharvest, List.mem_flatMap] at hg
    rcases hg with ⟨path, hpath, hg⟩
    exact ⟨path, hpath, g, hg, hordinal⟩
  · -- Where there is no project, nothing is found.
    rw [scan, if_neg hfolder] at hrun
    have hnone : r = {} := (Except.ok.inj (Prod.mk.inj hrun).1).symm
    rw [hnone] at hf
    exact absurd hf List.not_mem_nil

/-! ## Scans -/

/-- The way that is shown for a selected file leads back to it. -/
theorem join_relativeTo_of_mem_selectFiles (d : Disk) (hd : d.Proper) (root : String)
    (includes excludes : List String) (path : String)
    (h : path ∈ selectFiles d root includes excludes) :
    Disk.join root (d.relativeTo root path) = path := by
  rcases d.exists_of_isFolder root (isFolder_of_mem_selectFiles d root _ _ path h) with
    ⟨entries, hlookup⟩
  have he := hd.lookup root _ hlookup
  rw [selectFiles_eq d hd root _ hlookup] at h
  -- The ways of the walk are made of names, which is what joining and cutting back need.
  rcases List.mem_map.mp h with ⟨ns, hns, heq⟩
  have hns := List.mem_of_mem_filter hns
  rw [← heq]
  exact d.join_relativeTo_joinAll root ns (Entry.ne_nil_of_mem_trails he ns hns)
    (Entry.isName_of_mem_trails he ns hns)

/-- The rules of a scan are those of the package and of the project that the configuration lets
    through. -/
theorem keeps_of_resolveRules (p : Package) (d : Disk) (root : String) (c : Config) (log : Log)
    (rules : List Rule) (h : ((resolveRules p d root c).run.run log).1 = .ok rules) :
    ∀ rule ∈ rules, c.keeps rule.id = true ∧ rule.severity.atLeast c.minSeverity = true := by
  rcases exists_of_resolveRules p d root c log rules h with ⟨every, _, rfl⟩
  intro rule hrule
  rw [filterRules, List.mem_filter, Bool.and_eq_true] at hrule
  exact hrule.2

/-- The text that a scan reports stands where it is reported. A finding shows the path of a selected
    file that can be read, and in its text the reported text is found at the line and the column of
    the finding. An enabled rule that the configuration lets through objects to it there, with a
    regular expression that is meant for the file. -/
theorem reported_text_stands (d : Disk) (root : String) (c : Config) (rules : List Rule)
    (r : ScanResult) (h : ScanReturns d root c rules r) (f : Finding) (hf : f ∈ r.findings) :
    Disk.join root f.path ∈ selectFiles d root c.includes c.excludes ∧
      ∃ cs, Source.read d (Disk.join root f.path) = .ok cs ∧
        StandsAt f.matched.toList cs f.line f.column ∧
          ∃ rule ∈ rules, c.keeps rule.id = true ∧
            rule.severity.atLeast c.minSeverity = true ∧ ObjectsTo rule cs f := by
  rcases exists_foundAt_of_scanReturns d root c rules r h f hf with
    ⟨path, hpath, g, hg, ordinal, heq⟩
  rcases h with ⟨hd, p, _, _, s, _, _, hrules, _⟩
  -- The path that is shown is relative. Joined to the root it is the path of the file again.
  have hfile : Disk.join root f.path = path := by
    have hshown : f.path = d.relativeTo root path := by
      rw [heq]
      exact path_of_mem_foundAt d root rules path g hg
    rw [hshown]
    exact join_relativeTo_of_mem_selectFiles d hd root _ _ path hpath
  rcases exists_of_mem_foundAt d root rules path g hg with ⟨cs, hread, hstands, rule, hrule, hob⟩
  have hkept := keeps_of_resolveRules p d root c s.log rules hrules rule hrule
  rw [hfile]
  subst heq
  exact ⟨hpath, cs, hread, hstands, rule, hrule, hkept.1, hkept.2, hob.enabled, hob.found⟩

/-- A letter behind a space, on the second line of the second file, is where it is reported. -/
theorem reported_text_stands_neighbours : ∃ r f,
    ScanReturns neighbourDisk "/p" .standard [letterPackage.letterRule] r ∧ f ∈ r.findings ∧
      (f.path, f.line, f.column, f.matched) = ("b.py", 2, 2, "x") ∧
      Disk.join "/p" f.path ∈ selectFiles neighbourDisk "/p" Config.standard.includes
        Config.standard.excludes ∧
      ∃ cs, Source.read neighbourDisk (Disk.join "/p" f.path) = .ok cs ∧
        StandsAt f.matched.toList cs f.line f.column ∧
          ∃ rule ∈ [letterPackage.letterRule], Config.standard.keeps rule.id = true ∧
            rule.severity.atLeast Config.standard.minSeverity = true ∧ ObjectsTo rule cs f := by
  rcases exists_neighbourScan_shows "/p"
    (fun r => r.findings.map fun f => (f.path, f.line, f.column, f.matched))
    [("a.py", 1, 1, "x"), ("b.py", 1, 1, "x"), ("b.py", 2, 2, "x")] rfl (by decide +kernel) with
    ⟨r, h, hfindings⟩
  have hlast : ("b.py", (2 : Int), (2 : Int), "x") ∈
      r.findings.map fun f => (f.path, f.line, f.column, f.matched) := by
    rw [hfindings]
    exact List.mem_cons_of_mem _ (List.mem_cons_of_mem _ List.mem_cons_self)
  rcases List.mem_map.mp hlast with ⟨f, hf, hshows⟩
  exact ⟨r, f, h, hf, hshows, reported_text_stands neighbourDisk "/p" .standard
    [letterPackage.letterRule] r h f hf⟩

end CodeAudit
