import CodeAudit.Proofs.Scan.Reported
import CodeAudit.Proofs.Scan.Skipping

/-!
# What a Scan Accounts For

That the numbers of a scan are those of its files.

A scan goes through the selected files once and keeps four accounts: the turns it has announced, the
files it could not read, the lines it has counted and what it has found. A file that cannot be read
has its turn, and is in the second account instead of the other two. A file that can be read is in
those, with everything that each pattern of each rule has found in it.

The first account is kept by the state of the scan and the others by its result, so there are two
inductions over the files. A pattern that ends the search ends the scan with it. So in a scan that
returns no pattern has done that, and each of them has given all of its occurrences.

## Main definitions

* `readableAmong`: Files that can be read, with their texts.
* `unreadableFiles`: The selected files that cannot be read.
* `fileOccurrences`: The occurrences of rules in a file.
* `ScanAccounts`: The numbers of a scan are those of its files.

## Theorems

* `announced_of_scanFiles`: Each file has its turn.
* `eq_of_fileFindings`: What is found in a file that was searched.
* `eq_of_harvestOf`: What files give that were all searched.
* `accounts_of_scan`: The accounts of a scan that returns.
* `scan_accounts`: The accounts are exact, and no finding is in a file that could not be read.
-/

namespace CodeAudit

open Pattern (Subject)

/-! ## Turns -/

/-- Each file has its turn, in order. -/
theorem announced_of_scanFiles (d : Disk) (root : String) (rules : List Rule) (stopAt : StopAt)
    (total : Nat) (files : List String) :
    ∀ (index : Nat) (s s' : ScanState) (h : Harvest),
      (scanFiles d root rules stopAt total index files).run.run s = (.ok h, s') →
        s'.announced = s.announced ++
          files.mapIdx fun i path => ⟨d.relativeTo root path, index + i, total⟩ := by
  induction files with
  | nil =>
      intro index s s' h hrun
      rw [← (Prod.mk.inj hrun).2, List.mapIdx_nil, List.append_nil]
  | cons path rest ih =>
      intro index s s' h hrun
      rw [scanFiles] at hrun
      rcases exists_of_run_bind _ _ _ _ _ hrun with ⟨_, s₁, hannounce, hrun⟩
      rcases exists_of_run_bind _ _ _ _ _ hrun with ⟨result, s₂, hfile, hrun⟩
      rcases exists_of_run_bind _ _ _ _ _ hrun with ⟨more, s₃, hrest, hrun⟩
      have hannounced : s₁.announced = s.announced ++ [⟨d.relativeTo root path, index, total⟩] := by
        rcases run_announce stopAt ⟨d.relativeTo root path, index, total⟩ s with ⟨told, htold⟩
        rw [htold] at hannounce
        rw [← (Prod.mk.inj hannounce).2]
      -- A search of a file knows nothing of the turns.
      have hsearch : s₂.announced = s₁.announced := by
        rw [run_ofSearching] at hfile
        rw [← (Prod.mk.inj hfile).2]
      have hrest := ih (index + 1) s₂ s₃ more hrest
      have hend : s₃ = s' := (Prod.mk.inj hrun).2
      rw [← hend, hrest, hsearch, hannounced, List.append_assoc, List.singleton_append,
        List.mapIdx_cons]
      simp only [Nat.add_assoc, Nat.add_comm 1, Nat.add_zero]

/-- A scan that returns has announced the selected files. -/
theorem announced_of_scan (p : Package) (d : Disk) (root : String) (c : Config) (stopAt : StopAt)
    (duration : Int) (s s' : ScanState) (r : ScanResult) (hroot : d.isFolder root = true)
    (hrun : (scan p d root c stopAt duration).run.run s = (.ok r, s')) :
    s'.announced = s.announced ++ (selectFiles d root c.includes c.excludes).mapIdx
      fun i path => ⟨d.relativeTo root path, i,
        (selectFiles d root c.includes c.excludes).length⟩ := by
  rw [scan, if_pos hroot] at hrun
  rcases exists_of_run_bind _ _ _ _ _ hrun with ⟨rules, s₁, hrules, hrun⟩
  rcases exists_of_run_bind _ _ _ _ _ hrun with ⟨h, s₂, hfiles, hrun⟩
  have hstart : s₁.announced = s.announced := by
    rw [← (Prod.mk.inj hrules).2]
  have hend : s₂ = s' := (Prod.mk.inj hrun).2
  have hannounced := announced_of_scanFiles d root rules stopAt _ _ 0 s₁ s₂ h hfiles
  rw [hend, hstart] at hannounced
  simp only [Nat.zero_add] at hannounced
  exact hannounced

/-! ## Files -/

/-- The occurrences of rules in the text of a file, rule after rule and pattern after pattern. -/
def fileOccurrences (rules : List Rule) (path : String) (cs : List Char) : List Match :=
  rules.flatMap fun rule => rule.patterns.flatMap (occurrencesIn rule path cs.toArray)

theorem eq_of_collect {α β : Type} (found : α → Except Failure (List β)) (of : α → List β)
    (as : List α) (hof : ∀ a ∈ as, ∀ ys, found a = .ok ys → ys = of a) :
    ∀ xs, (as.mapM found).map List.flatten = .ok xs → xs = as.flatMap of := by
  induction as with
  | nil => exact fun xs h => (Except.ok.inj h).symm
  | cons a rest ih =>
      intro xs h
      rw [collect_cons] at h
      rw [List.forall_mem_cons] at hof
      rcases exists_of_bind_ok _ _ _ h with ⟨here, hhere, h⟩
      rcases exists_of_bind_ok _ _ _ h with ⟨more, hmore, h⟩
      rw [← Except.ok.inj h, hof.1 here hhere, ih hof.2 more hmore, List.flatMap_cons]

/-- A rule that was looked for has found all occurrences of its patterns. -/
theorem eq_of_ruleFindings (path : String) (content : Subject) (rule : Rule)
    (henabled : rule.enabled = true) (fs : List Finding)
    (h : ruleFindings path content rule = .ok fs) :
    fs = (rule.patterns.flatMap (occurrencesIn rule path content)).map Match.toFinding := by
  rw [ruleFindings, ruleMatches_of_enabled path content henabled] at h
  cases hstops : rule.patterns.find? (·.stops path) with
  | none =>
      rw [collect_of_none_stops rule path content rule.patterns hstops] at h
      exact (Except.ok.inj h).symm
  | some p =>
      -- Such a pattern would have ended the search.
      rcases collect_of_stops rule path content rule.patterns p hstops with ⟨e, _, _, herror⟩
      rw [herror] at h
      cases h

/-- What is found in a file that was searched: all occurrences of the rules. -/
theorem eq_of_fileFindings (path : String) (cs : List Char) (rules : List Rule)
    (hrules : ∀ rule ∈ rules, rule.enabled = true) (fs : List Finding)
    (h : fileFindings path cs.toArray rules = .ok fs) :
    fs = (fileOccurrences rules path cs).map Match.toFinding := by
  rw [fileOccurrences, List.map_flatMap]
  exact eq_of_collect _ _ rules
    (fun rule hrule => eq_of_ruleFindings path cs.toArray rule (hrules rule hrule)) fs h

/-- Files that can be read, with their texts. -/
def readableAmong (d : Disk) (files : List String) : List (String × List Char) :=
  files.filterMap fun path => (Source.read d path).toOption.map fun cs => (path, cs)

theorem readableAmong_cons (d : Disk) (path : String) (rest : List String) :
    readableAmong d (path :: rest) = match Source.read d path with
      | .ok cs => (path, cs) :: readableAmong d rest
      | .error _ => readableAmong d rest := by
  rw [readableAmong, List.filterMap_cons]
  cases Source.read d path with
  | ok cs => rfl
  | error t => rfl

/-- The selected files that cannot be read. -/
def unreadableFiles (d : Disk) (root : String) (c : Config) : List String :=
  (selectFiles d root c.includes c.excludes).filter fun path =>
    (Source.read d path).toOption.isNone

/-- What files give that were all searched. -/
theorem eq_of_harvestOf (d : Disk) (root : String) (rules : List Rule)
    (hrules : ∀ rule ∈ rules, rule.enabled = true) (files : List String) :
    ∀ h, harvestOf d root rules files = .ok h →
      h = { findings := (readableAmong d files).flatMap fun q =>
              (fileOccurrences rules (d.relativeTo root q.1) q.2).map Match.toFinding
            lines := ((readableAmong d files).map fun q => countLines q.2).sum
            failed := (files.filter fun path => (Source.read d path).toOption.isNone).map
              (d.relativeTo root) } := by
  induction files with
  | nil => exact fun h hok => (Except.ok.inj hok).symm
  | cons path rest ih =>
      intro h hok
      rw [harvestOf] at hok
      rcases exists_of_bind_ok _ _ _ hok with ⟨result, hresult, hok⟩
      rcases exists_of_bind_ok _ _ _ hok with ⟨more, hmore, hok⟩
      rw [← Except.ok.inj hok, ih more hmore, readableAmong_cons, List.filter_cons]
      unfold fileResult at hresult
      -- The file goes to the failed ones if it cannot be read, and to the other accounts if it can.
      cases hread : Source.read d path with
      | error t =>
          rw [hread] at hresult
          rw [← Except.ok.inj hresult]
          rfl
      | ok cs =>
          rw [hread] at hresult
          rcases exists_of_bind_ok _ _ _ hresult with ⟨found, hfound, hresult⟩
          rw [← Except.ok.inj hresult, eq_of_fileFindings _ cs rules hrules found hfound]
          rfl

/-! ## Scans -/

/-- The rules that apply to a project are enabled. -/
theorem enabled_of_resolveRules (p : Package) (d : Disk) (root : String) (c : Config) (log : Log)
    (rules : List Rule) (h : ((resolveRules p d root c).run.run log).1 = .ok rules) :
    ∀ rule ∈ rules, rule.enabled = true := by
  rcases exists_of_resolveRules p d root c log rules h with ⟨every, hevery, rfl⟩
  have hrun : (allRules p d (some (customFolder root c))).run.run log =
      (.ok every, ((allRules p d (some (customFolder root c))).run.run log).2) :=
    Prod.ext (hevery log) rfl
  -- Rules that are switched off are dropped at the end, from those of the package and of the
  -- project together.
  rcases exists_of_run_bind _ _ log _ every hrun with ⟨own, log₁, _, hcustom⟩
  rcases exists_of_run_bind _ _ log₁ _ every hcustom with ⟨custom, log₂, _, hall⟩
  rw [run_pure, Prod.mk.injEq, Except.ok.injEq] at hall
  intro rule hrule
  rw [filterRules, List.mem_filter, ← hall.1, List.mem_filter] at hrule
  exact hrule.1.2

/-- Numbering changes nothing but the fingerprints. -/
theorem map_assignFingerprints (fs : List Finding) :
    (assignFingerprints fs).map (fun f => { f with fingerprint := "" }) =
      fs.map fun f => { f with fingerprint := "" } := by
  have hafter : ∀ (fs : List Finding) (before : List (String × String × List Char)),
      (assignAfter before fs).map (fun f => { f with fingerprint := "" }) =
        fs.map fun f => { f with fingerprint := "" } := by
    intro fs
    induction fs with
    | nil => exact fun _ => rfl
    | cons f rest ih =>
        intro before
        rw [assignAfter, List.map_cons, List.map_cons, ih]
        rfl
  exact hafter fs []

/-- The numbers of a scan are those of its files: of those that were selected, of those among them
    that can be read, and of those that cannot. -/
structure ScanAccounts (d : Disk) (root : String) (c : Config) (rules : List Rule)
    (announced : List Announcement) (r : ScanResult) : Prop where
  executed : r.rulesExecuted = rules.length
  scanned : r.filesScanned = (selectFiles d root c.includes c.excludes).length
  announced : announced = (selectFiles d root c.includes c.excludes).mapIdx fun i path =>
    ⟨d.relativeTo root path, i, (selectFiles d root c.includes c.excludes).length⟩
  failed : r.failedFiles = (unreadableFiles d root c).map (d.relativeTo root)
  lines : r.linesScanned =
    (((readableAmong d (selectFiles d root c.includes c.excludes)).map fun q =>
      countLines q.2).sum : Nat)
  findings : r.findings.map (fun f => { f with fingerprint := "" }) =
    (readableAmong d (selectFiles d root c.includes c.excludes)).flatMap fun q =>
      (fileOccurrences rules (d.relativeTo root q.1) q.2).map Match.toFinding

/-- The accounts of a scan that returns. -/
theorem accounts_of_scan (p : Package) (d : Disk) (root : String) (c : Config) (stopAt : StopAt)
    (duration : Int) (s s' : ScanState) (hs : s.matcher.Reached) (r : ScanResult)
    (hroot : d.isFolder root = true)
    (hrun : (scan p d root c stopAt duration).run.run s = (.ok r, s')) :
    ∃ rules announced, ((resolveRules p d root c).run.run s.log).1 = .ok rules ∧
      s'.announced = s.announced ++ announced ∧ ScanAccounts d root c rules announced r := by
  have hannounced := announced_of_scan p d root c stopAt duration s s' r hroot hrun
  rcases run_scan p d root c stopAt duration s hs.faithful with ⟨result, s'', hrun', _, hresult⟩
  rw [hrun, Prod.mk.injEq] at hrun'
  rcases hresult hroot r hrun'.1.symm with ⟨rules, h, hrules, hharvest, hr⟩
  have hh := eq_of_harvestOf d root rules (enabled_of_resolveRules p d root c s.log rules hrules)
    _ h hharvest
  refine ⟨rules, _, hrules, hannounced, ?_⟩
  rw [hr, hh]
  refine ⟨rfl, rfl, rfl, rfl, rfl, ?_⟩
  rw [map_assignFingerprints, List.map_flatMap]
  refine congrArg (List.flatMap · _) (funext fun q => ?_)
  rw [List.map_map]
  rfl

/-- No finding of a scan that returns is in a file that could not be read. -/
theorem path_not_mem_failed (d : Disk) (root : String) (c : Config) (rules : List Rule)
    (r : ScanResult) (h : ScanReturns d root c rules r) (f : Finding) (hf : f ∈ r.findings) :
    f.path ∉ (unreadableFiles d root c).map (d.relativeTo root) := by
  rcases exists_foundAt_of_scanReturns d root c rules r h f hf with
    ⟨path, hpath, g, hg, ordinal, heq⟩
  rcases exists_of_mem_foundAt d root rules path g hg with ⟨cs, hread, _⟩
  have hshown : f.path = d.relativeTo root path := by
    rw [heq]
    exact path_of_mem_foundAt d root rules path g hg
  intro hmem
  rcases List.mem_map.mp hmem with ⟨other, hother, hsame⟩
  rw [unreadableFiles, List.mem_filter] at hother
  -- The path that is shown stands for one selected file, which would be read and not be read.
  have hfile : other = path := List.inj_on_of_nodup_map
    (nodup_ways d h.1 root c.includes c.excludes) hother.1 hpath (hsame.trans hshown)
  rw [hfile, hread] at hother
  exact Bool.false_ne_true hother.2

/-- The accounts of a scan are exact. If the scan of a folder returns, it has executed the rules
    that apply and scanned the selected files, each of which had its turn once, in order and with
    its place among all of them. Those that cannot be read are told in that order, the lines are
    those of the others, and what is found is, but for the fingerprints, what the patterns of the
    rules match in the others: file after file, rule after rule and pattern after pattern. So no
    finding is in a file that could not be read. -/
theorem scan_accounts (p : Package) (d : Disk) (root : String) (c : Config) (stopAt : StopAt)
    (duration : Int) (s s' : ScanState) (r : ScanResult) (hd : d.Proper)
    (hs : s.matcher.Reached) (hroot : d.isFolder root = true)
    (hrun : (scan p d root c stopAt duration).run.run s = (.ok r, s')) :
    ∃ rules announced, ((resolveRules p d root c).run.run s.log).1 = .ok rules ∧
      s'.announced = s.announced ++ announced ∧ ScanAccounts d root c rules announced r ∧
      ∀ f ∈ r.findings, f.path ∉ r.failedFiles := by
  rcases accounts_of_scan p d root c stopAt duration s s' hs r hroot hrun with
    ⟨rules, announced, hrules, hannounced, haccounts⟩
  refine ⟨rules, announced, hrules, hannounced, haccounts, fun f hf => ?_⟩
  rw [haccounts.failed]
  exact path_not_mem_failed d root c rules r
    ⟨hd, p, stopAt, duration, s, s', hs, hrules, hrun⟩ f hf

/-! ## A file that cannot be read -/

/-- A project of three files, of which the second one is no text. -/
def mixedDisk : Disk where
  root := .folder [("p", .folder [("a.py", .file (Utf8.encode "x".toList)), ("b.py", .file [0]),
    ("c.py", .file (Utf8.encode "\n xx".toList))])]
  cwd := []

/-- What a first scan of the project gives, and what it leaves. -/
def mixedScan : Except Failure ScanResult × ScanState :=
  (scan letterPackage mixedDisk "/p" .standard none 0).run.run (World.ofDisk mixedDisk 0).scan

/-- The second file has its turn and is told to be unreadable. The other two have three lines, and
    the letter stands in them three times. -/
theorem scan_accounts_mixed : ∃ r s', mixedScan = (.ok r, s') ∧
    s'.announced = [⟨"a.py", 0, 3⟩, ⟨"b.py", 1, 3⟩, ⟨"c.py", 2, 3⟩] ∧
    r.failedFiles = ["b.py"] ∧ r.linesScanned = 3 ∧
    r.findings.map (fun f => { f with fingerprint := "" }) =
      (readableAmong mixedDisk ["/p/a.py", "/p/c.py"]).flatMap fun q =>
        (fileOccurrences [letterPackage.letterRule] (mixedDisk.relativeTo "/p" q.1) q.2).map
          Match.toFinding := by
  have hproper : mixedDisk.Proper := Entry.proper_of_isProper _ (by decide +kernel)
  have hfiles : selectFiles mixedDisk "/p" Config.standard.includes Config.standard.excludes =
      ["/p/a.py", "/p/b.py", "/p/c.py"] := by decide +kernel
  rcases exists_run_of_toOption_map mixedScan (fun r => r.findings.length) 3 (by decide +kernel)
    with ⟨r, s', hrun, _⟩
  rcases scan_accounts letterPackage mixedDisk "/p" .standard none 0 _ s' r hproper .start
    (by decide +kernel) hrun with ⟨rules, announced, hrules, hannounced, haccounts, _⟩
  have hrule : [letterPackage.letterRule] = rules :=
    Except.ok.inj ((rfl : Except.ok _ = _).trans hrules)
  refine ⟨r, s', hrun, ?_, ?_, ?_, ?_⟩
  · rw [hannounced, haccounts.announced, hfiles]
    decide +kernel
  · rw [haccounts.failed]
    decide +kernel
  · rw [haccounts.lines, hfiles]
    decide +kernel
  · rw [haccounts.findings, hfiles, hrule]
    rfl

end CodeAudit
