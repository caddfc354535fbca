import CodeAudit.Proofs.Disk.Walk

/-!
# Folders of Files

What the operations on files do to a folder that holds nothing else.

The operations take paths and give disks. In a folder that holds only files, all of them can
be told in terms of its names and their contents: what is at a path is looked up in the
list, writing a file sets a name, and moving one removes a name and sets another.
`FilesAt` ties the list to the disk, and each operation has one statement here that keeps
the tie, so that nothing above has to follow a path again.

The folder stays reachable on the changed disk because files are no part of any way.

## Main definitions

* `Disk.filesOf`: Files as the entries of a folder.
* `Disk.FilesAt`: A path leads to a place where there is a folder of files.
* `Disk.HoldsFiles`: A path leads to a folder of files.

## Theorems

* `Disk.FilesAt.setAt`: Setting or removing a name keeps the tie.
* `Disk.HoldsFiles.lookup_join`: What is at the path of a name is looked up in the list.
* `Disk.HoldsFiles.names_eq`: The names of the folder.
* `Disk.HoldsFiles.writeFile_join`, `Disk.HoldsFiles.moveOver_join`: The operations that
  change the folder.
* `Disk.folder_of_locate_join`: A name that leads somewhere is in a folder.
* `Disk.buildFolders_of_isFolder`: A folder that is there is not made.
* `Disk.buildFolders_join`: A missing folder is made.
* `Disk.buildFolders_join_join`: Two missing folders, one in the other, are made.
-/

namespace CodeAudit

namespace Disk

/-- Files with their names, as the entries of a folder. -/
def filesOf (fs : List (String × List UInt8)) : List (String × Entry) :=
  fs.map fun p => (p.1, .file p.2)

/-- A path leads to a place where there is a folder that holds files and nothing else. -/
structure FilesAt (d : Disk) (path : String) (place : Place) (fs : List (String × List UInt8)) :
    Prop where
  located : d.locate true path = .ok place
  entries : d.at? place = some (.folder (filesOf fs))
  nodup : (fs.map Prod.fst).Nodup

/-- A path leads to a folder that holds files and nothing else. -/
def HoldsFiles (d : Disk) (path : String) (fs : List (String × List UInt8)) : Prop :=
  ∃ place, d.FilesAt path place fs

theorem lookup_filesOf (name : String) (fs : List (String × List UInt8)) :
    (filesOf fs).lookup name = (fs.lookup name).map Entry.file :=
  Entry.lookup_map Entry.file name fs

theorem filesOf_not_way (fs : List (String × List UInt8)) (name : String) (x : Entry)
    (h : (filesOf fs).lookup name = some x) : ¬ x.IsWay := by
  rw [lookup_filesOf, Option.map_eq_some_iff] at h
  rcases h with ⟨content, _, hx⟩
  rw [← hx]
  exact id

theorem filesOf_not_link (fs : List (String × List UInt8)) (name target : String) :
    (filesOf fs).lookup name ≠ some (.link target) :=
  fun h => filesOf_not_way fs name _ h trivial

/-- A path that is not empty is followed along its steps. -/
theorem locate_iff_leads (d : Disk) (followLast : Bool) (path : String) (h : path ≠ "")
    (place : Place) : d.locate followLast path = .ok place ↔
      d.Leads followLast linkLimit (startOf path d.cwd) (stepsOf path) place := by
  rw [locate, if_neg (mt String.isEmpty_iff.mp h), walk_iff_leads]

theorem EndsInName.ne_empty {path : String} (h : EndsInName path) : path ≠ "" :=
  fun heq => h.ne_nil (by rw [heq]; rfl)

theorem ne_empty_of_locate (d : Disk) (followLast : Bool) (path : String) (place : Place)
    (h : d.locate followLast path = .ok place) : path ≠ "" := by
  rintro rfl
  exact nomatch h

/-- What a path is joined to leads to a folder along the steps before the name. -/
theorem locate_iff_leads_names (d : Disk) (path : String) (hpath : path ≠ "") (place : Place)
    (entries : List (String × Entry)) (hat : d.at? place = some (.folder entries))
    (steps : List String) (hsteps : stepsOf path = steps ∨ stepsOf path = steps ++ ["."]) :
    d.locate true path = .ok place ↔
      d.Leads true linkLimit (startOf path d.cwd) steps place := by
  rw [locate_iff_leads d true path hpath]
  rcases hsteps with heq | heq
  · rw [heq]
  · rw [heq]
    constructor
    · intro hleads
      rcases hleads.exists_of_append _ _ rfl (List.cons_ne_nil "." []) with
        ⟨place', links, hfront, hstay⟩
      rcases hstay.folder with ⟨inside, hinside⟩
      -- The step that stays ends where it starts, so the longer way ends where the shorter does.
      rw [hstay.unique links place' (.stay inside hinside rfl (.done links place'))]
      exact hfront
    · exact fun hleads => hleads.append entries hat (List.cons_ne_nil "." [])
        fun links => .stay entries hat rfl (.done links place)

/-- A name in a folder is found in the folder, unless a link under it is followed. -/
theorem locate_join (d : Disk) (followLast : Bool) (path : String) (place : Place)
    (entries : List (String × Entry)) (hplace : d.locate true path = .ok place)
    (hat : d.at? place = some (.folder entries)) (n : String) (hn : Path.IsName n.toList)
    (hlink : followLast = true → ∀ t, entries.lookup n ≠ some (.link t)) :
    d.locate followLast (join path n) = .ok (n :: place) := by
  have hpath := ne_empty_of_locate d true path place hplace
  have hstep : n ≠ "." ∧ n ≠ ".." :=
    ⟨fun heq => hn.ne_here (heq ▸ rfl), fun heq => hn.ne_up (heq ▸ rfl)⟩
  rcases exists_stepsOf_join path n hn with ⟨steps, hsteps, hjoin⟩
  rw [locate_iff_leads_names d path hpath place entries hat steps hsteps] at hplace
  -- Both paths start at the same place, and the longer one has one step more.
  rw [locate_iff_leads d followLast _ (endsInName_join path n hn).ne_empty,
    startOf_join path n hn, hjoin]
  rw [← at?_cons d place entries hat n] at hlink
  exact hplace.append entries hat (List.cons_ne_nil n []) fun links =>
    .last links entries hat hstep hlink

/-- A path leads to the same place on every disk with the same ways. -/
theorem locate_of_sameWays (d d' : Disk) (h : SameWays d d') (followLast : Bool) (path : String)
    (place : Place) (hplace : d.locate followLast path = .ok place)
    (hlink : followLast = true → ∀ t, d'.at? place ≠ some (.link t)) :
    d'.locate followLast path = .ok place := by
  have hpath := ne_empty_of_locate d followLast path place hplace
  rw [locate_iff_leads d followLast path hpath] at hplace
  rw [locate_iff_leads d' followLast path hpath, h.cwd]
  exact hplace.of_sameWays h hlink

theorem locate_of_lookup (d : Disk) (path : String) (e : Entry) (h : d.lookup path = .ok e) :
    ∃ place, d.locate true path = .ok place ∧ d.at? place = some e := by
  rw [Disk.lookup] at h
  cases hplace : d.locate true path with
  | error err =>
      rw [hplace] at h
      exact nomatch h
  | ok place =>
      rw [hplace] at h
      refine ⟨place, rfl, ?_⟩
      simp only [bind, Except.bind] at h
      cases hat : d.at? place with
      | none =>
          rw [hat] at h
          exact nomatch h
      | some x =>
          rw [hat] at h
          exact congrArg _ (Except.ok.inj h)

theorem lookup_of_locate (d : Disk) (path : String) (place : Place)
    (h : d.locate true path = .ok place) :
    d.lookup path = match d.at? place with
      | some e => .ok e
      | none => .error .notFound := by
  rw [Disk.lookup, h]
  rfl

theorem exists_of_isFolder (d : Disk) (path : String) (h : d.isFolder path = true) :
    ∃ entries, d.lookup path = .ok (.folder entries) := by
  unfold isFolder at h
  split at h
  · rename_i entries heq
    exact ⟨entries, heq⟩
  · exact nomatch h

theorem exists_of_isFile (d : Disk) (path : String) (h : d.isFile path = true) :
    ∃ content, d.lookup path = .ok (.file content) := by
  unfold isFile at h
  split at h
  · rename_i content heq
    exact ⟨content, heq⟩
  · exact nomatch h

/-- Only folders have names. -/
theorem folder_of_names (d : Disk) (path : String) (found : List String)
    (h : d.names path = .ok found) : ∃ entries, d.lookup path = .ok (.folder entries) := by
  rw [names] at h
  cases hlookup : d.lookup path with
  | error e =>
      rw [hlookup] at h
      exact absurd h (by simp only [reduceCtorEq, not_false_eq_true])
  | ok x =>
      rw [hlookup] at h
      cases x with
      | folder entries => exact ⟨entries, rfl⟩
      | file content => exact absurd h (by simp only [reduceCtorEq, not_false_eq_true])
      | link target => exact absurd h (by simp only [reduceCtorEq, not_false_eq_true])

/-! ## Folders of files -/

namespace FilesAt

variable {d : Disk} {path : String} {place : Place} {fs : List (String × List UInt8)}

theorem locate_join (h : d.FilesAt path place fs) (followLast : Bool) (n : String)
    (hn : Path.IsName n.toList) : d.locate followLast (join path n) = .ok (n :: place) :=
  Disk.locate_join d followLast path place _ h.located h.entries n hn
    (fun _ t => filesOf_not_link fs n t)

theorem at?_cons (h : d.FilesAt path place fs) (n : String) :
    d.at? (n :: place) = (fs.lookup n).map Entry.file := by
  rw [Disk.at?_cons d place _ h.entries n, lookup_filesOf]

/-- Setting or removing a name keeps the tie. -/
theorem setAt (h : d.FilesAt path place fs) (n : String) (content : Option (List UInt8)) :
    (d.setAt (n :: place) (content.map Entry.file)).FilesAt path place
      (Entry.setName n content fs) := by
  have hways : SameWays d (d.setAt (n :: place) (content.map Entry.file)) :=
    sameWays_setAt d place _ h.entries n (filesOf_not_way fs n) _
  have hentries : (d.setAt (n :: place) (content.map Entry.file)).at? place =
      some (.folder (filesOf (Entry.setName n content fs))) := by
    rw [at?_setAt d place _ h.entries n, filesOf, Entry.setName_map]
    rfl
  refine ⟨locate_of_sameWays d _ hways true path place h.located fun _ t => ?_, hentries,
    Entry.nodup_setName n content fs h.nodup⟩
  rw [hentries]
  exact fun heq => nomatch heq

end FilesAt

namespace HoldsFiles

variable {d : Disk} {path : String} {fs : List (String × List UInt8)}

theorem nodup (h : d.HoldsFiles path fs) : (fs.map Prod.fst).Nodup := by
  rcases h with ⟨place, hplace⟩
  exact hplace.nodup

/-- What is at the path of a name is looked up in the list. -/
theorem lookup_join (h : d.HoldsFiles path fs) (n : String)
    (hn : Path.IsName n.toList) :
    d.lookup (join path n) = match fs.lookup n with
      | some content => .ok (.file content)
      | none => .error .notFound := by
  rcases h with ⟨place, hplace⟩
  rw [lookup_of_locate d _ _ (hplace.locate_join true n hn), hplace.at?_cons]
  cases fs.lookup n with
  | none => rfl
  | some content => rfl

theorem exists?_join (h : d.HoldsFiles path fs) (n : String)
    (hn : Path.IsName n.toList) : d.exists? (join path n) = (fs.lookup n).isSome := by
  rw [exists?, h.lookup_join n hn]
  cases fs.lookup n with
  | none => rfl
  | some content => rfl

theorem fileContent_join (h : d.HoldsFiles path fs) (n : String)
    (hn : Path.IsName n.toList) (content : List UInt8) (hcontent : fs.lookup n = some content) :
    d.fileContent (join path n) = .ok content := by
  rw [fileContent, h.lookup_join n hn, hcontent]

/-- The names of the folder. -/
theorem names_eq (h : d.HoldsFiles path fs) :
    d.names path = .ok (sortTexts (fs.map Prod.fst)) := by
  rcases h with ⟨place, hplace⟩
  have hnames : (filesOf fs).map Prod.fst = fs.map Prod.fst := by
    rw [filesOf, List.map_map]
    rfl
  rw [names, lookup_of_locate d _ _ hplace.located, hplace.entries]
  simp only [hnames]

/-- Writing a file sets a name. -/
theorem writeFile_join (h : d.HoldsFiles path fs) (n : String)
    (hn : Path.IsName n.toList) (content : List UInt8) :
    ∃ d', d.writeFile (join path n) content = .ok d' ∧
      d'.HoldsFiles path (Entry.setName n (some content) fs) := by
  rcases h with ⟨place, hplace⟩
  refine ⟨d.setAt (n :: place) (some (.file content)), ?_, place,
    hplace.setAt n (some content)⟩
  -- Writing follows a link, moving does not; there is none in a folder of files.
  rw [writeFile, hplace.locate_join true n hn]
  simp only [bind, Except.bind, hplace.at?_cons]
  cases fs.lookup n with
  | none => rfl
  | some old => rfl

/-- Moving a file removes a name and sets another. -/
theorem moveOver_join (h : d.HoldsFiles path fs) (a b : String)
    (ha : Path.IsName a.toList) (hb : Path.IsName b.toList) (content : List UInt8)
    (hcontent : fs.lookup a = some content) :
    ∃ d', d.moveOver (join path a) (join path b) = .ok d' ∧
      d'.HoldsFiles path (Entry.setName b (some content) (Entry.setName a none fs)) := by
  rcases h with ⟨place, hplace⟩
  refine ⟨(d.setAt (a :: place) none).setAt (b :: place) (some (.file content)), ?_, place,
    (hplace.setAt a none).setAt b (some content)⟩
  rw [moveOver, hplace.locate_join false a ha, hplace.locate_join false b hb]
  simp only [bind, Except.bind, hplace.at?_cons, hcontent, Option.map_some]
  cases fs.lookup b with
  | none => rfl
  | some old => rfl

end HoldsFiles

/-! ## Making folders -/

/-- What a path that leads somewhere is joined to is a folder. -/
theorem folder_of_locate_join (d : Disk) (path : String) (hpath : path ≠ "") (n : String)
    (hn : Path.IsName n.toList) (target : Place) (h : d.locate true (join path n) = .ok target) :
    ∃ place above, d.locate true path = .ok place ∧ d.at? place = some (.folder above) := by
  rcases exists_stepsOf_join path n hn with ⟨steps, hsteps, hjoin⟩
  rw [locate_iff_leads d true _ (endsInName_join path n hn).ne_empty, startOf_join path n hn,
    hjoin] at h
  -- The way to the name leads through the folder above it.
  rcases h.exists_of_append _ _ rfl (List.cons_ne_nil n []) with ⟨place, _, hplace, hlast⟩
  rcases hlast.folder with ⟨above, habove⟩
  rw [← locate_iff_leads_names d path hpath place above habove steps hsteps] at hplace
  exact ⟨place, above, hplace, habove⟩

/-- What is above something is a folder, and a name stands in it. -/
theorem folder_above (d : Disk) (path : String) (hpath : path ≠ "") (n : String)
    (hn : Path.IsName n.toList) (x : Entry) (hlookup : d.lookup (join path n) = .ok x) :
    ∃ place above e, d.locate true path = .ok place ∧ d.at? place = some (.folder above) ∧
      above.lookup n = some e := by
  rcases locate_of_lookup d _ _ hlookup with ⟨target, htarget, hat⟩
  rcases folder_of_locate_join d path hpath n hn target htarget with
    ⟨place, above, hplace, habove⟩
  cases hentry : above.lookup n with
  | some e => exact ⟨place, above, e, hplace, habove, hentry⟩
  | none =>
      -- Otherwise the path would lead to a name that stands for nothing.
      have hnone := locate_join d true path place above hplace habove n hn
        (fun _ t => by rw [hentry]; exact fun heq => nomatch heq)
      rw [htarget, Except.ok.injEq] at hnone
      rw [hnone, at?_cons d place above habove n, hentry] at hat
      exact nomatch hat

theorem makeFolder_of_exists (d : Disk) (path : String) (n : String)
    (hn : Path.IsName n.toList) (place : Place) (above : List (String × Entry)) (e : Entry)
    (hplace : d.locate true path = .ok place) (hat : d.at? place = some (.folder above))
    (he : above.lookup n = some e) : d.makeFolder (join path n) = .error .exists := by
  rw [makeFolder, locate_join d false path place above hplace hat n hn
    (fun hfalse => Bool.noConfusion hfalse)]
  simp only [bind, Except.bind, at?_cons d place above hat n, he]
  rfl

/-- A folder that is there is not made. -/
theorem buildFolders_of_isFolder (d : Disk) (path : String) (h : EndsInName path) (n : String)
    (hn : Path.IsName n.toList) (entries : List (String × Entry))
    (hlookup : d.lookup (join path n) = .ok (.folder entries)) (fuel : Nat) :
    d.buildFolders (fuel + 1) (join path n) = (d, none) := by
  rcases folder_above d path h.ne_empty n hn _ hlookup with
    ⟨place, above, e, hplace, hat, he⟩
  have hexists : d.exists? path = true := by
    rw [exists?, lookup_of_locate d path place hplace, hat]
  have hfolder : d.isFolder (join path n) = true := by rw [isFolder, hlookup]
  rw [buildFolders, parent_join path h n hn, hexists]
  simp only [Bool.not_true, Bool.and_false, Bool.false_eq_true, if_false]
  rw [buildFolders.finish, makeFolder_of_exists d path n hn place above e hplace hat he]
  simp only [hfolder, if_true]

/-- A missing folder is made in the folder above it, and is empty. -/
theorem makeFolder_join (d : Disk) (path : String) (place : Place)
    (above : List (String × Entry)) (hplace : d.locate true path = .ok place)
    (hat : d.at? place = some (.folder above)) (n : String) (hn : Path.IsName n.toList)
    (hmissing : above.lookup n = none) :
    ∃ d', d.makeFolder (join path n) = .ok d' ∧ d'.locate true (join path n) = .ok (n :: place) ∧
      d'.at? (n :: place) = some (.folder []) := by
  have hnolink : true = true → ∀ t, above.lookup n ≠ some (.link t) := by
    intro _ t heq
    rw [hmissing] at heq
    exact nomatch heq
  refine ⟨d.setAt (n :: place) (some (.folder [])), ?_, ?_, ?_⟩
  · rw [makeFolder, locate_join d false path place above hplace hat n hn
      (fun hfalse => Bool.noConfusion hfalse)]
    simp only [bind, Except.bind, at?_cons d place above hat n, hmissing]
    rfl
  · have hways := sameWays_setAt d place above hat n
      (fun x hx => by rw [hmissing] at hx; exact nomatch hx) (some (.folder []))
    have hplace' := locate_of_sameWays d _ hways true path place hplace fun _ t => by
      rw [at?_setAt d place above hat n]
      exact fun heq => nomatch heq
    -- On the changed disk the new name stands for a folder, so no link is followed.
    refine locate_join _ true path place _ hplace' (at?_setAt d place above hat n _) n hn ?_
    intro _ t heq
    rw [Entry.lookup_setName_self] at heq
    exact nomatch heq
  · rw [at?_cons _ place _ (at?_setAt d place above hat n _), Entry.lookup_setName_self]

theorem finish_of_makeFolder (d d' : Disk) (path : String) (h : d.makeFolder path = .ok d') :
    buildFolders.finish d path = (d', none) := by
  rw [buildFolders.finish, h]

/-- A missing folder is made, and no other. -/
theorem buildFolders_join (d : Disk) (path : String) (h : EndsInName path)
    (above : List (String × Entry)) (hfolder : d.lookup path = .ok (.folder above)) (n : String)
    (hn : Path.IsName n.toList) (hmissing : above.lookup n = none) (fuel : Nat) :
    ∃ d', d.buildFolders (fuel + 1) (join path n) = (d', none) ∧
      d'.HoldsFiles (join path n) [] := by
  rcases locate_of_lookup d path _ hfolder with ⟨place, hplace, hat⟩
  rcases makeFolder_join d path place above hplace hat n hn hmissing with
    ⟨d', hmade, hlocated, hempty⟩
  refine ⟨d', ?_, n :: place, hlocated, hempty, List.nodup_nil⟩
  have hexists : d.exists? path = true := by rw [exists?, hfolder]
  rw [buildFolders, parent_join path h n hn, hexists]
  simp only [Bool.not_true, Bool.and_false, Bool.false_eq_true, if_false]
  exact finish_of_makeFolder d d' _ hmade

/-- Two missing folders, one in the other, are made. -/
theorem buildFolders_join_join (d : Disk) (path : String) (h : EndsInName path)
    (above : List (String × Entry)) (hfolder : d.lookup path = .ok (.folder above)) (a b : String)
    (ha : Path.IsName a.toList) (hb : Path.IsName b.toList) (hmissing : above.lookup a = none)
    (fuel : Nat) :
    ∃ d', d.buildFolders (fuel + 2) (join (join path a) b) = (d', none) ∧
      d'.HoldsFiles (join (join path a) b) [] := by
  have houter := endsInName_join path a ha
  rcases locate_of_lookup d path _ hfolder with ⟨place, hplace, hat⟩
  -- The outer folder is missing and made first, in a folder that is there.
  rcases buildFolders_join d path h above hfolder a ha hmissing fuel with
    ⟨middle, hmiddle, outer, hfiles⟩
  rcases makeFolder_join middle (join path a) outer [] hfiles.located hfiles.entries b hb
    rfl with ⟨d', hmade, hlocated, hempty⟩
  refine ⟨d', ?_, b :: outer, hlocated, hempty, List.nodup_nil⟩
  have hmissing' : d.exists? (join path a) = false := by
    have hlocate := locate_join d true path place above hplace hat a ha
      (fun _ t => by rw [hmissing]; exact fun heq => nomatch heq)
    rw [exists?, lookup_of_locate d _ _ hlocate, at?_cons d place above hat a, hmissing]
  -- The path above is shorter, so folders are built for it first.
  have hne : (join path a != join (join path a) b) = true := by
    rw [bne_iff_ne]
    intro heq
    have hlength := congrArg (fun s => s.toList.length) heq
    rw [join_toList _ houter b hb] at hlength
    simp only [List.length_append, List.length_cons] at hlength
    omega
  have hnonempty : (join path a).isEmpty = false := by
    rw [← Bool.not_eq_true, String.isEmpty_iff]
    exact fun heq => houter.ne_nil (by rw [heq]; rfl)
  rw [buildFolders, parent_join _ houter b hb, hmissing', hne, hnonempty]
  simp only [Bool.not_false, Bool.and_self, if_true, hmiddle]
  exact finish_of_makeFolder middle d' _ hmade

end Disk

end CodeAudit
