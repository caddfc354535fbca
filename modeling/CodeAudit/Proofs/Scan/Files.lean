import CodeAudit.Proofs.Scan.Matcher

/-!
# Scans of Files

What a scan finds, file by file.

A scan goes through its files with one matcher, and announces each of them. Neither the matcher
nor the announcements show in what is found, so a scan that returns has found what each file
gives by itself, in the order of the files. `harvestOf` says this without any state, and
`run_scanFiles` is the induction over the files that ties it to the scan.

The matcher stays faithful whether the scan returns or not. So the matcher that any number of
scans has left is one that the next scan can start with.

## Main definitions

* `fileResult`: What one file gives.
* `harvestOf`: What files give together.
* `foundAt`: The findings of one file.
* `Matcher.Reached`: A matcher that scans have left.

## Theorems

* `gives_scanFile`: The scan of one file.
* `run_scanFiles`: The scan of files that returns.
* `run_scan`: The scan of a project that returns.
* `Matcher.Reached.faithful`: A matcher that scans have left is faithful.
-/

namespace CodeAudit

/-! ## One file -/

/-- What one file gives: nothing if it cannot be read. -/
def fileResult (d : Disk) (rules : List Rule) (path shown : String) : Except Failure FileResult :=
  match Source.read d path with
  | .ok cs => fileFindings shown cs.toArray rules >>= fun found => .ok (some (found, countLines cs))
  | .error _ => .ok none

theorem gives_readSource (d : Disk) (path : String) :
    Gives (Searching.ofAttempt (readSource d path)) (.ok (Source.read d path).toOption) := by
  refine .ofAttempt _ _ fun log => ?_
  unfold readSource
  cases Source.read d path with
  | ok cs => exact ⟨log, rfl⟩
  | error t => exact ⟨log ++ [.sourceSkipped path t], rfl⟩

theorem gives_scanFile (d : Disk) (rules : List Rule) (path shown : String) :
    Gives (scanFile d rules path shown) (fileResult d rules path shown) := by
  have hresult : fileResult d rules path shown =
      (Except.ok (Source.read d path).toOption >>= fun read =>
        read.elim (.ok none) fun cs => fileFindings shown cs.toArray rules >>= fun found =>
          .ok (some (found, countLines cs))) := by
    unfold fileResult
    cases Source.read d path with
    | ok cs => rfl
    | error t => rfl
  rw [hresult]
  refine (gives_readSource d path).bind fun read _ => ?_
  cases read with
  | none =>
      -- A file that cannot be read is told of, which the matcher takes no part in.
      have hnote : Gives (Searching.ofAttempt (note (.fileNotScanned shown))) (.ok ()) :=
        .ofAttempt _ _ fun log => ⟨_, run_note _ log⟩
      exact hnote.bind fun _ _ => .pure none
  | some cs => exact (gives_findingsOf shown cs.toArray rules).bind fun found _ => .pure _

/-! ## Several files -/

/-- What files give together. -/
def harvestOf (d : Disk) (root : String) (rules : List Rule) :
    List String → Except Failure Harvest
  | [] => .ok ⟨[], 0, []⟩
  | path :: rest =>
    fileResult d rules path (d.relativeTo root path) >>= fun result =>
      harvestOf d root rules rest >>= fun h => .ok (h.add (d.relativeTo root path) result)

theorem run_ofSearching {α : Type} (x : Searching α) (s : ScanState) :
    (Scanning.ofSearching x).run.run s =
      ((x.run.run s.toSearch).1, { s with toSearch := (x.run.run s.toSearch).2 }) := rfl

theorem run_announce (stopAt : StopAt) (a : Announcement) (s : ScanState) :
    ∃ result, (announce stopAt a).run.run s =
      (result, { s with announced := s.announced ++ [a] }) := by
  unfold announce
  rw [run_bind _ _ s { s with announced := s.announced ++ [a] } () rfl]
  split
  · exact ⟨_, run_throw _ _⟩
  · exact ⟨_, run_pure _ _⟩

/-- A scan of files leaves a faithful matcher, and if it returns, it has found what the files
    give. -/
theorem run_scanFiles (d : Disk) (root : String) (rules : List Rule) (stopAt : StopAt)
    (total : Nat) (files : List String) :
    ∀ (index : Nat) (s : ScanState), s.matcher.Faithful →
      ∃ result s', (scanFiles d root rules stopAt total index files).run.run s = (result, s') ∧
        s'.matcher.Faithful ∧ ∀ h, result = .ok h → harvestOf d root rules files = .ok h := by
  induction files with
  | nil => exact fun index s hs => ⟨_, s, rfl, hs, fun _ h => h⟩
  | cons path rest ih =>
      intro index s hs
      rw [scanFiles]
      rcases run_announce stopAt ⟨d.relativeTo root path, index, total⟩ s with ⟨announced, hrun⟩
      cases announced with
      -- The announcement itself can end the scan, before the file has been read.
      | error e =>
          exact ⟨_, _, run_bind_error _ _ _ _ e hrun, hs, fun _ h => nomatch h⟩
      | ok _ =>
          rw [run_bind _ _ _ _ _ hrun]
          rcases gives_scanFile d rules path (d.relativeTo root path) s.toSearch hs with
            ⟨search, hfile, hsearch⟩
          -- What the file leaves is put back among what the scan has announced.
          have hlift := run_ofSearching (scanFile d rules path (d.relativeTo root path))
            { s with announced := s.announced ++ [⟨d.relativeTo root path, index, total⟩] }
          rw [hfile] at hlift
          cases hresult : fileResult d rules path (d.relativeTo root path) with
          | error e =>
              rw [hresult] at hlift
              exact ⟨_, _, run_bind_error _ _ _ _ e hlift, hsearch, fun _ h => nomatch h⟩
          | ok result =>
              rw [hresult] at hlift
              rw [run_bind _ _ _ _ _ hlift]
              rcases ih (index + 1)
                ⟨search, s.announced ++ [⟨d.relativeTo root path, index, total⟩]⟩ hsearch with
                ⟨more, s', hmore, hs', hharvest⟩
              rw [harvestOf, hresult, ok_bind]
              cases more with
              -- A later file ends the scan. What this one gave is lost with it.
              | error e =>
                  exact ⟨_, s', run_bind_error _ _ _ _ e hmore, hs', fun _ h => nomatch h⟩
              | ok h =>
                  refine ⟨_, s', (run_bind _ _ _ _ _ hmore).trans (run_pure _ s'), hs', ?_⟩
                  intro h' heq
                  rw [hharvest h rfl, ok_bind]
                  exact heq

/-- The findings of one file, none if it cannot be read or searched. -/
def foundAt (d : Disk) (root : String) (rules : List Rule) (path : String) : List Finding :=
  match fileResult d rules path (d.relativeTo root path) with
  | .ok (some (found, _)) => found
  | _ => []

/-- The findings of files are those of each of them. -/
theorem findings_of_harvestOf (d : Disk) (root : String) (rules : List Rule)
    (files : List String) : ∀ h, harvestOf d root rules files = .ok h →
      h.findings = files.flatMap (foundAt d root rules) := by
  induction files with
  | nil =>
      intro h hok
      rw [← Except.ok.inj hok]
      rfl
  | cons path rest ih =>
      intro h hok
      rw [harvestOf] at hok
      rcases exists_of_bind_ok _ _ _ hok with ⟨result, hresult, hok⟩
      rcases exists_of_bind_ok _ _ _ hok with ⟨more, hmore, hok⟩
      rw [← Except.ok.inj hok, List.flatMap_cons, ← ih more hmore, foundAt, hresult]
      cases result with
      | none => rfl
      | some found => rfl

/-! ## A project -/

/-- A scan of a project leaves a faithful matcher, and if it returns, it has found what the
    selected files give with the rules that apply. -/
theorem run_scan (p : Package) (d : Disk) (root : String) (c : Config) (stopAt : StopAt)
    (duration : Int) (s : ScanState) (hs : s.matcher.Faithful) :
    ∃ result s', (scan p d root c stopAt duration).run.run s = (result, s') ∧
      s'.matcher.Faithful ∧ (d.isFolder root = true → ∀ r, result = .ok r →
        ∃ rules h, ((resolveRules p d root c).run.run s.log).1 = .ok rules ∧
          harvestOf d root rules (selectFiles d root c.includes c.excludes) = .ok h ∧
          r = { findings := assignFingerprints h.findings, rulesExecuted := rules.length,
                filesScanned := (selectFiles d root c.includes c.excludes).length,
                linesScanned := h.lines, duration, failedFiles := h.failed }) := by
  unfold scan
  by_cases hroot : d.isFolder root = true
  · rw [if_pos hroot]
    -- Loading the rules writes to the log and touches nothing else.
    have hlift : ∀ x : Attempt (List Rule), (Scanning.ofAttempt x).run.run s =
        ((x.run.run s.log).1, { s with log := (x.run.run s.log).2 }) := fun _ => rfl
    have hrules := hlift (resolveRules p d root c)
    cases hresolved : ((resolveRules p d root c).run.run s.log).1 with
    | error e =>
        rw [hresolved] at hrules
        exact ⟨_, _, run_bind_error _ _ _ _ e hrules, hs, fun _ _ h => nomatch h⟩
    | ok rules =>
        rw [hresolved] at hrules
        rw [run_bind _ _ _ _ _ hrules]
        dsimp only
        rcases run_scanFiles d root rules stopAt (selectFiles d root c.includes c.excludes).length
          (selectFiles d root c.includes c.excludes) 0
          { s with log := ((resolveRules p d root c).run.run s.log).2 } hs with
          ⟨result, s', hrun, hs', hharvest⟩
        cases result with
        | error e => exact ⟨_, s', run_bind_error _ _ _ _ e hrun, hs', fun _ _ h => nomatch h⟩
        | ok h =>
            refine ⟨_, s', (run_bind _ _ _ _ _ hrun).trans (run_pure _ s'), hs', ?_⟩
            intro _ r hr
            exact ⟨rules, h, rfl, hharvest h rfl, (Except.ok.inj hr).symm⟩
  · rw [if_neg hroot]
    have hnote : (Scanning.ofAttempt (note (.noProject root))).run.run s =
        (.ok (), { s with log := s.log ++ [.noProject root] }) := rfl
    refine ⟨_, _, (run_bind _ _ _ _ _ hnote).trans (run_pure _ _), hs, ?_⟩
    exact fun h => absurd h hroot

/-- A matcher that scans have left, each of any project and with any outcome. -/
inductive Matcher.Reached : Matcher → Prop
  | start : Reached []
  | scan (p : Package) (d : Disk) (root : String) (c : Config) (stopAt : StopAt) (duration : Int)
      (s : ScanState) (h : Reached s.matcher) :
      Reached ((CodeAudit.scan p d root c stopAt duration).run.run s).2.matcher

/-- A matcher that scans have left is faithful. -/
theorem Matcher.Reached.faithful {m : Matcher} (h : m.Reached) : m.Faithful := by
  induction h with
  | start => exact Matcher.faithful_nil
  | scan p d root c stopAt duration s _ ih =>
      rcases run_scan p d root c stopAt duration s ih with ⟨result, s', hrun, hs', _⟩
      rw [hrun]
      exact hs'

end CodeAudit
