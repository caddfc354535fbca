import CodeAudit.Proofs.Scan.View

/-!
# Findings and Their Files

That the findings of a file depend on that file alone.

Two things could let one file show in the findings of another. One is the matcher, which goes from
file to file; it has been dealt with. The other is the number of a finding, which is counted over
the whole scan. Findings are numbered among those like them, and findings that are alike have one
path, so the numbers of a file are counted within the file. That is `filter_assignFingerprints`:
picking out the findings of some likenesses and numbering them can be done in either order.

What remains is that a path stands for one file. The ways from the root to selected files are
different, so the findings that show one of these ways come from one file.

## Main definitions

* `ScanReturns`: A scan with given rules returns a result.

## Theorems

* `filter_assignFingerprints`: Findings are numbered among those like them.
* `findings_of_path`: The findings that show a path are those of its file, numbered by themselves.
* `findings_local`: Two scans find the same in a file that is the same.
-/

namespace CodeAudit

/-! ## Numbers -/

/-- Numbering findings and picking out those of some likenesses can be done in either order. -/
theorem filter_assignAfter (keep : String × String × List Char → Bool) (fs : List Finding) :
    ∀ before, (assignAfter before fs).filter (fun f => keep f.likeness) =
      assignAfter (before.filter keep) (fs.filter fun f => keep f.likeness) := by
  induction fs with
  | nil => exact fun _ => rfl
  | cons f rest ih =>
      intro before
      have hlikeness : ∀ ordinal, (f.withOrdinal ordinal).likeness = f.likeness := fun _ => rfl
      rw [assignAfter, List.filter_cons, List.filter_cons, hlikeness, ih]
      -- What is left out is not counted for those that stay, since they are not like it.
      by_cases hkeep : keep f.likeness = true
      · rw [if_pos hkeep, if_pos hkeep, assignAfter, List.count_filter hkeep,
          List.filter_cons, if_pos hkeep]
      · rw [if_neg hkeep, if_neg hkeep, List.filter_cons, if_neg hkeep]

/-- Findings are numbered among those like them. -/
theorem filter_assignFingerprints (keep : String × String × List Char → Bool)
    (fs : List Finding) :
    (assignFingerprints fs).filter (fun f => keep f.likeness) =
      assignFingerprints (fs.filter fun f => keep f.likeness) :=
  filter_assignAfter keep fs []

/-! ## Scans -/

theorem path_of_mem_foundAt (d : Disk) (root : String) (rules : List Rule) (path : String)
    (f : Finding) (hf : f ∈ foundAt d root rules path) : f.path = d.relativeTo root path := by
  unfold foundAt fileResult at hf
  cases hread : Source.read d path with
  | error t =>
      rw [hread] at hf
      exact absurd hf List.not_mem_nil
  | ok cs =>
      simp only [hread] at hf
      cases hfound : fileFindings (d.relativeTo root path) cs.toArray rules with
      | error e =>
          rw [hfound] at hf
          exact absurd hf List.not_mem_nil
      | ok found =>
          rw [hfound, ok_bind] at hf
          exact path_of_fileFindings _ _ rules found hfound f hf

/-- Among what files give, the findings that show the path of one of them are those of that
    file. -/
theorem filter_flatMap_foundAt (d : Disk) (root : String) (rules : List Rule)
    (files : List String) (hnodup : (files.map (d.relativeTo root)).Nodup) (path : String)
    (hpath : path ∈ files) :
    (files.flatMap (foundAt d root rules)).filter (fun f => f.path == d.relativeTo root path) =
      foundAt d root rules path := by
  have hown : ∀ q, (d.relativeTo root q = d.relativeTo root path) →
      (foundAt d root rules q).filter (fun f => f.path == d.relativeTo root path) =
        foundAt d root rules q := by
    intro q hq
    refine List.filter_eq_self.mpr fun f hf => ?_
    rw [path_of_mem_foundAt d root rules q f hf, hq, beq_self_eq_true]
  have hother : ∀ q, (d.relativeTo root q ≠ d.relativeTo root path) →
      (foundAt d root rules q).filter (fun f => f.path == d.relativeTo root path) = [] := by
    intro q hq
    refine List.filter_eq_nil_iff.mpr fun f hf => ?_
    rw [path_of_mem_foundAt d root rules q f hf, beq_iff_eq]
    exact hq
  -- The file stands once among the files, so its findings come from one place in the middle.
  rcases List.append_of_mem hpath with ⟨before, behind, heq⟩
  rw [heq, List.map_append, List.map_cons, List.nodup_append] at hnodup
  rcases hnodup with ⟨_, hbehind, hbefore⟩
  rw [List.nodup_cons] at hbehind
  have hnone : ∀ qs : List String, (∀ q ∈ qs, d.relativeTo root q ≠ d.relativeTo root path) →
      (qs.flatMap (foundAt d root rules)).filter
        (fun f => f.path == d.relativeTo root path) = [] := by
    intro qs hqs
    rw [List.filter_flatMap, List.flatMap_eq_nil_iff]
    exact fun q hq => hother q (hqs q hq)
  rw [heq, List.flatMap_append, List.flatMap_cons, List.filter_append, List.filter_append,
    hown path rfl, hnone before, hnone behind, List.nil_append, List.append_nil]
  · intro q hq hsame
    exact hbehind.1 (hsame ▸ List.mem_map_of_mem hq)
  · intro q hq hsame
    exact hbefore _ (List.mem_map_of_mem hq) _ List.mem_cons_self hsame

/-- A scan of a project in a proper disk returns a result with given rules. It starts with a
    matcher that other scans may have left. -/
def ScanReturns (d : Disk) (root : String) (c : Config) (rules : List Rule) (r : ScanResult) :
    Prop :=
  d.Proper ∧ ∃ (p : Package) (stopAt : StopAt) (duration : Int) (s s' : ScanState),
    s.matcher.Reached ∧ ((resolveRules p d root c).run.run s.log).1 = .ok rules ∧
      (scan p d root c stopAt duration).run.run s = (.ok r, s')

/-- The findings that show the path of a selected file are those that the file gives by itself,
    numbered by themselves. -/
theorem findings_of_path (d : Disk) (root : String) (c : Config) (rules : List Rule)
    (r : ScanResult) (h : ScanReturns d root c rules r) (path : String)
    (hpath : path ∈ selectFiles d root c.includes c.excludes) :
    r.findings.filter (fun f => f.path == d.relativeTo root path) =
      assignFingerprints (foundAt d root rules path) := by
  rcases h with ⟨hd, p, stopAt, duration, s, s', hreached, hrules, hrun⟩
  rcases run_scan p d root c stopAt duration s hreached.faithful with
    ⟨result, s'', hrun', _, hresult⟩
  rw [hrun, Prod.mk.injEq] at hrun'
  have hfolder := isFolder_of_mem_selectFiles d root _ _ path hpath
  rcases hresult hfolder r hrun'.1.symm with ⟨rules', harvest, hrules', hharvest, heq⟩
  rw [hrules, Except.ok.injEq] at hrules'
  subst hrules'
  have hfindings := findings_of_harvestOf d root rules _ harvest hharvest
  have hnodup := nodup_ways d hd root c.includes c.excludes
  -- The path of a finding is part of what findings that are alike agree in.
  have hnumbers := filter_assignFingerprints (fun l => l.2.1 == d.relativeTo root path)
    harvest.findings
  simp only [Finding.likeness] at hnumbers
  rw [heq]
  dsimp only
  rw [hnumbers, hfindings, filter_flatMap_foundAt d root rules _ hnodup path hpath]

/-- Two scans find the same in a file that is the same. Whatever the projects are otherwise, if
    both scans apply the same rules and select a file with the same way from the root and the same
    bytes, the findings that show this way are the same, in all that they say and in their
    order. -/
theorem findings_local (d₁ d₂ : Disk) (root₁ root₂ : String) (c₁ c₂ : Config) (rules : List Rule)
    (r₁ r₂ : ScanResult) (h₁ : ScanReturns d₁ root₁ c₁ rules r₁)
    (h₂ : ScanReturns d₂ root₂ c₂ rules r₂) (path₁ path₂ way : String)
    (hpath₁ : path₁ ∈ selectFiles d₁ root₁ c₁.includes c₁.excludes)
    (hpath₂ : path₂ ∈ selectFiles d₂ root₂ c₂.includes c₂.excludes)
    (hway₁ : d₁.relativeTo root₁ path₁ = way) (hway₂ : d₂.relativeTo root₂ path₂ = way)
    (hbytes : d₁.fileContent path₁ = d₂.fileContent path₂) :
    r₁.findings.filter (fun f => f.path == way) = r₂.findings.filter (fun f => f.path == way) := by
  -- Either side is what the file gives by itself. Only its bytes and its way are read for that.
  have hfound₁ := findings_of_path d₁ root₁ c₁ rules r₁ h₁ path₁ hpath₁
  have hfound₂ := findings_of_path d₂ root₂ c₂ rules r₂ h₂ path₂ hpath₂
  have hread : Source.read d₁ path₁ = Source.read d₂ path₂ := by
    rw [Source.read, Source.read, hbytes]
  have hsame : foundAt d₁ root₁ rules path₁ = foundAt d₂ root₂ rules path₂ := by
    rw [foundAt, foundAt, fileResult, fileResult, hread, hway₁, hway₂]
  rw [hway₁] at hfound₁
  rw [hway₂] at hfound₂
  rw [hfound₁, hfound₂, hsame]

/-! ## Two projects with a file in common -/

/-- Projects with the file `b.py` in common. One has a file before it, in which a letter stands
    too, and the other a file behind it that is not UTF-8. -/
def neighbourDisk : Disk where
  root := .folder
    [("p", .folder [("a.py", .file (Utf8.encode "x".toList)),
                    ("b.py", .file (Utf8.encode "x\n x".toList))]),
     ("q", .folder [("b.py", .file (Utf8.encode "x\n x".toList)), ("c.py", .file [255])])]
  cwd := []

/-- The package of one rule, which objects to a letter. -/
def letterPackage : Package :=
  .files [("l.yaml", .ok letterRule)]
where
  /-- The rule. -/
  letterRule : Rule :=
    { id := "L", name := "Letter", description := "A letter", severity := .low,
      category := .quality, compliance := [], patterns := [⟨.regex, "x", [], none⟩],
      quickFix := none, enabled := true, custom := false }

/-- What a first scan of a project of these gives, and what it leaves. -/
def neighbourScan (root : String) : Except Failure ScanResult × ScanState :=
  (scan letterPackage neighbourDisk root .standard none 0).run.run
    (World.ofDisk neighbourDisk 0).scan

/-- A first scan of a project of these returns, and its result shows what the scan gives. -/
theorem exists_neighbourScan_shows {α : Type} (root : String) (view : ScanResult → α) (a : α)
    (hrules : ((resolveRules letterPackage neighbourDisk root .standard).run.run []).1 =
      .ok [letterPackage.letterRule])
    (hview : (neighbourScan root).1.toOption.map view = some a) :
    ∃ r, ScanReturns neighbourDisk root .standard [letterPackage.letterRule] r ∧ view r = a := by
  rcases exists_run_of_toOption_map (neighbourScan root) view a hview with ⟨r, s', hscan, hr⟩
  have hproper : neighbourDisk.Proper := Entry.proper_of_isProper _ (by decide +kernel)
  exact ⟨r, ⟨hproper, letterPackage, none, 0, (World.ofDisk neighbourDisk 0).scan, s', .start,
    hrules, hscan⟩, hr⟩

theorem exists_neighbourScan (root : String) (count : Nat)
    (hrules : ((resolveRules letterPackage neighbourDisk root .standard).run.run []).1 =
      .ok [letterPackage.letterRule])
    (hcount : (neighbourScan root).1.toOption.map (fun r => r.findings.length) = some count) :
    ∃ r, ScanReturns neighbourDisk root .standard [letterPackage.letterRule] r ∧
      r.findings.length = count :=
  exists_neighbourScan_shows root (fun r => r.findings.length) count hrules hcount

/-- Two scans of projects that have a file in common find the same in it, among what else they
    find. -/
theorem findings_local_neighbours : ∃ r₁ r₂ : ScanResult,
    r₁.findings.length = 3 ∧ r₂.findings.length = 2 ∧
      r₁.findings.filter (fun f => f.path == "b.py") =
        r₂.findings.filter (fun f => f.path == "b.py") := by
  rcases exists_neighbourScan "/p" 3 rfl (by decide +kernel) with ⟨r₁, h₁, hcount₁⟩
  rcases exists_neighbourScan "/q" 2 rfl (by decide +kernel) with ⟨r₂, h₂, hcount₂⟩
  exact ⟨r₁, r₂, hcount₁, hcount₂, findings_local neighbourDisk neighbourDisk "/p" "/q" .standard
    .standard [letterPackage.letterRule] r₁ r₂ h₁ h₂ "/p/b.py" "/q/b.py" "b.py"
    (by decide +kernel) (by decide +kernel) (by decide +kernel) (by decide +kernel)
    (by decide +kernel)⟩

end CodeAudit
