import CodeAudit.Proofs.Json.Draft
import CodeAudit.Proofs.Operation
import CodeAudit.Proofs.Store.Names

/-!
# Saving a Report

What one call of `save` does to the folder of reports.

The folder is known by its list of files, as `Disk.HoldsFiles` has it, and the call is
followed step by step: the folder is there, a free name is found, the file of the report is
put in place, and the file of the latest report is put over the one before. `outcome_save` is
the whole of it, and all that is said elsewhere about saving goes through it.

A file is put in place through a temporary one, which is `replaced` on the list: the name has
the new content, and every name but the temporary one is as it was.

A report that has a form is written to its end, so that saving it is putting two files in place,
which `saveForm` does and `save_eq` says. One that has no form is not saved, and at most a part of
it is left under a temporary name.

## Main definitions

* `Filing.outcome`: What an operation gives on a disk, and the disk it leaves.
* `ReportStore.replaceFile`: Puts a file in place.
* `ReportStore.saveForm`: Saves a report by its form.
* `ReportStore.replaced`: Files after one of them was put in place.
* `ReportStore.saved`: Files after a report was saved.
* `ReportStore.Keeps`: The folder of reports can be made and holds only files.

## Theorems

* `Filing.outcome_bind`: What follows an operation that succeeds.
* `ReportStore.outcome_replaceFile`: A file is put in place.
* `ReportStore.outcome_save`: A report is saved.
* `ReportStore.outcome_save_error`: A report without a form is not saved.
* `ReportStore.save_eq`: A report is saved by its form.
* `ReportStore.exists_keeps_of_root`, `ReportStore.exists_keeps_of_hidden`,
  `ReportStore.keeps_of_holdsFiles`: Projects whose folder of reports can be made, or is there.
* `ReportStore.lookup_saved_of_ne`: Other files are left alone.
-/

namespace CodeAudit

namespace Filing

variable {α β : Type}

/-- What an operation gives on a disk, and the disk it leaves. -/
def outcome (x : Filing α) (d : Disk) : Except Failure α × Disk :=
  StateT.run (ExceptT.run x) d

/-- What follows an operation that succeeds starts from the disk it leaves. -/
theorem outcome_bind (x : Filing α) (f : α → Filing β) (d d' : Disk) (a : α)
    (h : outcome x d = (.ok a, d')) : outcome (x >>= f) d = outcome (f a) d' :=
  run_bind x f d d' a h

/-- Nothing follows an operation that fails. -/
theorem outcome_bind_error (x : Filing α) (f : α → Filing β) (d d' : Disk) (e : Failure)
    (h : outcome x d = (.error e, d')) : outcome (x >>= f) d = (.error e, d') :=
  run_bind_error x f d d' e h

theorem outcome_get (d : Disk) : outcome get d = (.ok d, d) := rfl

theorem outcome_ofExcept (x : Except Failure α) (d : Disk) :
    outcome (ExceptT.mk (pure x)) d = (x, d) := rfl

/-- An operation on a disk that succeeds. -/
theorem outcome_run (path : String) (operation : Disk → Except FileError Disk) (d d' : Disk)
    (h : operation d = .ok d') : outcome (run path operation) d = (.ok (), d') := by
  rw [run, outcome_bind _ _ d d d (outcome_get d), h]
  rfl

theorem outcome_makeFolders (path : String) (d d' : Disk)
    (h : d.buildFolders (path.length + 1) path = (d', none)) :
    outcome (makeFolders path) d = (.ok (), d') := by
  rw [makeFolders, outcome_bind _ _ d d d (outcome_get d)]
  simp only [h]
  rfl

end Filing

namespace ReportStore

/-! ## The form of a report -/

/-- Puts a file in place: it is written under a temporary name and moved. -/
def replaceFile (path : String) (content : List UInt8) : Filing Unit := do
  let temporary := path ++ ".tmp"
  Filing.run temporary fun d => d.writeFile temporary content
  Filing.run path fun d => d.moveOver temporary path

/-- Saves a report by its form. -/
def saveForm (root : String) (endTime : Int) (form : Value) : Filing String := do
  Filing.makeFolders (folder root)
  let path := unusedPath (← get) (folder root) endTime
  replaceFile path (contentOf form)
  replaceFile (latestPath root) (contentOf form)
  return path

/-- The form of a report is its form in a document, and can be written. -/
theorem encode_of_formOf (r : Report) (form : Value) (h : formOf r = .ok form) :
    r.encode = .ok form ∧ Json.hasShortIntegers form = true := by
  rw [formOf] at h
  cases hencode : r.encode with
  | error e =>
      rw [hencode] at h
      exact nomatch h
  | ok v =>
      rw [hencode] at h
      by_cases hshort : Json.hasShortIntegers v = true
      · simp only [if_pos hshort, Except.ok.injEq] at h
        rw [← h]
        exact ⟨rfl, hshort⟩
      · simp only [if_neg hshort, reduceCtorEq] at h

/-- A report whose form can be written has that form. -/
theorem formOf_of_encode (r : Report) (form : Value) (hencode : r.encode = .ok form)
    (hshort : Json.hasShortIntegers form = true) : formOf r = .ok form := by
  rw [formOf, hencode]
  simp only [hshort, if_true]

/-- A document that can be written is put in place. -/
theorem replaceDocument_eq (path : String) (form : Value)
    (h : Json.hasShortIntegers form = true) :
    replaceDocument path form = replaceFile path (contentOf form) := by
  rw [replaceDocument, replaceFile, draftOf, Json.draft_eq form h, contentOf]
  simp only [h, if_true]

/-- A time that can be written is in a second that can be written. -/
theorem isShort_secondOf (t : Int) (h : isShort t = true) :
    isShort (secondOf t) = true := by
  have hlimit : 0 < digitLimit := by decide
  rw [isShort, decide_eq_true_eq, Nat.length_toDigits_le_iff (by decide) hlimit] at h ⊢
  rw [secondOf]
  -- Below zero it is rounded down, which makes the number no longer either.
  omega

/-- The time of a report is among the integers of its form. -/
theorem isShort_endTime (r : Report) (form : Value) (h : formOf r = .ok form) :
    isShort r.endTime = true := by
  rcases encode_of_formOf r form h with ⟨hencode, hshort⟩
  rw [Report.encode] at hencode
  rcases exists_of_bind_ok _ _ _ hencode with ⟨entries, _, hform⟩
  rw [← Except.ok.inj hform] at hshort
  -- The integers of a form are the integers of its entries, and the time is among the first.
  simp only [Report.encodeWith, Json.hasShortIntegers, Json.entriesAreShort, Bool.true_and,
    Bool.and_eq_true] at hshort
  exact hshort.2.1

/-- A report is saved by its form. -/
theorem save_eq (root : String) (r : Report) (form : Value) (h : formOf r = .ok form) :
    save root r = saveForm root r.endTime form := by
  rcases encode_of_formOf r form h with ⟨hencode, hshort⟩
  have hsecond := isShort_secondOf r.endTime (isShort_endTime r form h)
  -- What is handed on without a mistake is there at once.
  have hpure : ∀ {α : Type} (a : α), (ExceptT.mk (pure (.ok a)) : Filing α) = pure a :=
    fun _ => rfl
  rw [save, saveForm, hencode]
  simp only [freshPath, hsecond, if_true, orFailure, hpure, pure_bind,
    replaceDocument_eq _ form hshort]

/-! ## One file -/

/-- Files after one of them was written under its temporary name and moved to its place. -/
def replaced (name : String) (content : List UInt8) (fs : List (String × List UInt8)) :
    List (String × List UInt8) :=
  Entry.setName name (some content)
    (Entry.setName (name ++ ".tmp") none (Entry.setName (name ++ ".tmp") (some content) fs))

theorem lookup_replaced_self (name : String) (content : List UInt8)
    (fs : List (String × List UInt8)) :
    (replaced name content fs).lookup name = some content :=
  Entry.lookup_setName_self name content _

theorem lookup_replaced_of_ne (name other : String) (content : List UInt8)
    (fs : List (String × List UInt8)) (hname : other ≠ name) (htemporary : other ≠ name ++ ".tmp") :
    (replaced name content fs).lookup other = fs.lookup other := by
  rw [replaced, Entry.lookup_setName_ne name other hname,
    Entry.lookup_setName_ne _ other htemporary, Entry.lookup_setName_ne _ other htemporary]

theorem join_temporary (folder : String) (hpath : Disk.EndsInName folder) (name : String)
    (hname : Path.IsName name.toList) (htemporary : Path.IsName (name ++ ".tmp").toList) :
    Disk.join folder name ++ ".tmp" = Disk.join folder (name ++ ".tmp") := by
  apply String.toList_inj.mp
  rw [String.toList_append, Disk.join_toList folder hpath name hname,
    Disk.join_toList folder hpath _ htemporary, String.toList_append, List.append_assoc,
    List.cons_append]

/-- A file is put in place. -/
theorem outcome_replaceFile (d : Disk) (folder : String) (hpath : Disk.EndsInName folder)
    (fs : List (String × List UInt8)) (h : d.HoldsFiles folder fs) (name : String)
    (hname : Path.IsName name.toList) (htemporary : Path.IsName (name ++ ".tmp").toList)
    (content : List UInt8) :
    ∃ d', Filing.outcome (replaceFile (Disk.join folder name) content) d = (.ok (), d') ∧
      d'.HoldsFiles folder (replaced name content fs) := by
  rcases h.writeFile_join (name ++ ".tmp") htemporary content with
    ⟨written, hwrite, hwritten⟩
  -- What is moved is what was just written under the temporary name.
  rcases hwritten.moveOver_join (name ++ ".tmp") name htemporary hname content
    (Entry.lookup_setName_self _ content fs) with ⟨moved, hmove, hmoved⟩
  refine ⟨moved, ?_, hmoved⟩
  rw [replaceFile]
  simp only [join_temporary folder hpath name hname htemporary]
  rw [Filing.outcome_bind _ _ d written () (Filing.outcome_run _ _ d written hwrite)]
  exact Filing.outcome_run _ _ written moved hmove

/-- A document that cannot be written is not put in place. What was written of it stays under the
    temporary name. -/
theorem outcome_replaceDocument_error (d : Disk) (folder : String)
    (hpath : Disk.EndsInName folder) (fs : List (String × List UInt8))
    (h : d.HoldsFiles folder fs) (name : String) (hname : Path.IsName name.toList)
    (htemporary : Path.IsName (name ++ ".tmp").toList) (form : Value)
    (hlong : ¬ Json.hasShortIntegers form = true) :
    ∃ d', Filing.outcome (replaceDocument (Disk.join folder name) form) d =
        (.error (.fault (.integerTooLong 0)), d') ∧
      d'.HoldsFiles folder (Entry.setName (name ++ ".tmp") (some (draftOf form)) fs) := by
  rcases h.writeFile_join (name ++ ".tmp") htemporary (draftOf form) with
    ⟨written, hwrite, hwritten⟩
  refine ⟨written, ?_, hwritten⟩
  rw [replaceDocument]
  simp only [join_temporary folder hpath name hname htemporary, if_neg hlong]
  rw [Filing.outcome_bind _ _ d written () (Filing.outcome_run _ _ d written hwrite)]
  rfl

/-! ## One report -/

/-- Files after a report was saved: it has a file of its own, and is the latest one. -/
def saved (endTime : Int) (number : Nat) (content : List UInt8)
    (fs : List (String × List UInt8)) : List (String × List UInt8) :=
  replaced latestName content (replaced (fileName endTime number) content fs)

theorem lookup_saved_latest (endTime : Int) (number : Nat) (content : List UInt8)
    (fs : List (String × List UInt8)) :
    (saved endTime number content fs).lookup latestName = some content :=
  lookup_replaced_self latestName content _

theorem lookup_saved_self (endTime : Int) (number : Nat) (content : List UInt8)
    (fs : List (String × List UInt8)) :
    (saved endTime number content fs).lookup (fileName endTime number) = some content := by
  rw [saved, lookup_replaced_of_ne latestName _ content _ (fileName_ne_latestName endTime number)
    (temporary_ne latestName _ (fileName_endsInJson endTime number))]
  exact lookup_replaced_self _ content fs

/-- Other files are left alone, unless they have a temporary name. -/
theorem lookup_saved_of_ne (endTime : Int) (number : Nat) (content : List UInt8)
    (fs : List (String × List UInt8)) (other : String) (hown : other ≠ fileName endTime number)
    (hlatest : other ≠ latestName)
    (htemporary : other ≠ fileName endTime number ++ ".tmp" ∧ other ≠ latestName ++ ".tmp") :
    (saved endTime number content fs).lookup other = fs.lookup other := by
  rw [saved, lookup_replaced_of_ne latestName other content _ hlatest htemporary.2,
    lookup_replaced_of_ne _ other content fs hown htemporary.1]

/-- The folder of reports can be made, and holds only files. -/
def Keeps (d : Disk) (root : String) (d' : Disk) (fs : List (String × List UInt8)) : Prop :=
  d.buildFolders ((folder root).length + 1) (folder root) = (d', none) ∧
    d'.HoldsFiles (folder root) fs

/-- The path of the folder of reports is long enough to go up to the project. -/
theorem exists_fuel (root : String) : ∃ fuel, (folder root).length + 1 = fuel + 2 := by
  -- The path has a name in it at least, so that it has a character to go up by.
  have hne := List.length_pos_iff.mpr (endsInName_folder root).ne_nil
  rw [String.length_toList] at hne
  exact ⟨(folder root).length - 1, by omega⟩

/-- In a project folder without a folder of its own for the program, the folder of reports
    can be made and is empty. -/
theorem exists_keeps_of_root (d : Disk) (root : String) (hroot : Disk.EndsInName root)
    (entries : List (String × Entry)) (hfolder : d.lookup root = .ok (.folder entries))
    (hmissing : entries.lookup ".securecode" = none) : ∃ made, Keeps d root made [] := by
  rcases exists_fuel root with ⟨fuel, hfuel⟩
  rcases Disk.buildFolders_join_join d root hroot entries hfolder ".securecode" "reports"
    isName_hidden isName_reports hmissing fuel with ⟨made, hmade, hfiles⟩
  refine ⟨made, ?_, ?_⟩
  · rw [hfuel, folder_eq]
    exact hmade
  · rw [folder_eq]
    exact hfiles

/-- If the folder of the program is there and has no folder of reports, that one can be made
    and is empty. -/
theorem exists_keeps_of_hidden (d : Disk) (root : String) (entries : List (String × Entry))
    (hfolder : d.lookup (Disk.join root ".securecode") = .ok (.folder entries))
    (hmissing : entries.lookup "reports" = none) : ∃ made, Keeps d root made [] := by
  rcases Disk.buildFolders_join d _ (Disk.endsInName_join root _ isName_hidden) entries hfolder
    "reports" isName_reports hmissing _ with ⟨made, hmade, hfiles⟩
  refine ⟨made, ?_, ?_⟩
  · rw [folder_eq]
    exact hmade
  · rw [folder_eq]
    exact hfiles

/-- The folder of reports need not be made if it is there. -/
theorem buildFolders_folder (d : Disk) (root : String) (entries : List (String × Entry))
    (h : d.lookup (folder root) = .ok (.folder entries)) (fuel : Nat) :
    d.buildFolders (fuel + 1) (folder root) = (d, none) := by
  rw [folder_eq] at h ⊢
  exact Disk.buildFolders_of_isFolder d _ (Disk.endsInName_join root _ isName_hidden) _
    isName_reports entries h fuel

/-- A folder of files need not be made. -/
theorem keeps_of_holdsFiles (d : Disk) (root : String) (fs : List (String × List UInt8))
    (h : d.HoldsFiles (folder root) fs) : Keeps d root d fs := by
  refine ⟨?_, h⟩
  rcases h with ⟨place, hplace⟩
  have hlookup := Disk.lookup_of_locate d _ place hplace.located
  rw [hplace.entries] at hlookup
  exact buildFolders_folder d root _ hlookup _

theorem lookup_of_searchEndsAt (d : Disk) (root : String) (fs : List (String × List UInt8))
    (h : d.HoldsFiles (folder root) fs) (endTime : Int) (number : Nat)
    (hends : SearchEndsAt d (folder root) endTime number) :
    fs.lookup (fileName endTime number) = none := by
  have hexists := h.exists?_join _ (isName_fileName endTime number)
  rw [SearchEndsAt, filePath, hexists] at hends
  exact Option.isNone_iff_eq_none.mp (Option.isSome_eq_false_iff.mp hends.1)

/-- A report is saved. -/
theorem outcome_save (d made : Disk) (root : String) (fs : List (String × List UInt8))
    (h : Keeps d root made fs) (r : Report) (form : Value) (hform : formOf r = .ok form) :
    ∃ number d', SearchEndsAt made (folder root) r.endTime number ∧
      Filing.outcome (save root r) d = (.ok (filePath (folder root) r.endTime number), d') ∧
      d'.HoldsFiles (folder root) (saved r.endTime number (contentOf form) fs) := by
  have hpath := endsInName_folder root
  rcases searchEndsAt_unusedPath made (folder root) fs h.2 r.endTime with
    ⟨number, hunused, hends⟩
  rcases outcome_replaceFile made (folder root) hpath fs h.2 (fileName r.endTime number)
    (isName_fileName _ _) (isName_temporary_fileName _ _) (contentOf form) with
    ⟨kept, hkept, hfiles⟩
  rw [← filePath] at hkept
  -- The latest report is put over the one before in the folder that the first file is in.
  rcases outcome_replaceFile kept (folder root) hpath _ hfiles latestName isName_latestName
    isName_temporary_latestName (contentOf form) with ⟨latest, hlatest, hsaved⟩
  rw [← latestPath] at hlatest
  refine ⟨number, latest, hends, ?_, hsaved⟩
  rw [save_eq root r form hform, saveForm,
    Filing.outcome_bind _ _ d made () (Filing.outcome_makeFolders _ d made h.1),
    Filing.outcome_bind _ _ made made made (Filing.outcome_get made), hunused,
    Filing.outcome_bind _ _ made kept () hkept,
    Filing.outcome_bind _ _ kept latest () hlatest]
  rfl

/-- A report with an integer that is too long is not saved. -/
theorem outcome_save_long (d made : Disk) (root : String) (fs : List (String × List UInt8))
    (h : Keeps d root made fs) (r : Report) (form : Value) (hencode : r.encode = .ok form)
    (hlong : ¬ Json.hasShortIntegers form = true) :
    ∃ d', Filing.outcome (save root r) d = (.error (.fault (.integerTooLong 0)), d') := by
  have hform : orFailure Failure.fault r.encode = .ok form := by rw [hencode, orFailure]
  rw [save, hform, Filing.outcome_bind _ _ d made () (Filing.outcome_makeFolders _ d made h.1),
    Filing.outcome_bind _ _ made made form (Filing.outcome_ofExcept (.ok form) made),
    Filing.outcome_bind _ _ made made made (Filing.outcome_get made)]
  by_cases hsecond : isShort (secondOf r.endTime) = true
  · rcases searchEndsAt_unusedPath made (folder root) fs h.2 r.endTime with
      ⟨number, hunused, _⟩
    rcases outcome_replaceDocument_error made (folder root) (endsInName_folder root) fs h.2
      (fileName r.endTime number) (isName_fileName _ _) (isName_temporary_fileName _ _) form
      hlong with ⟨d', hfails, _⟩
    refine ⟨d', ?_⟩
    rw [freshPath, if_pos hsecond, hunused,
      Filing.outcome_bind _ _ made made _ (Filing.outcome_ofExcept (.ok _) made)]
    exact Filing.outcome_bind_error _ _ made d' _ hfails
  · -- The name of the file has no text.
    refine ⟨made, ?_⟩
    rw [freshPath, if_neg hsecond]
    exact Filing.outcome_bind_error _ _ made made _ (Filing.outcome_ofExcept (.error _) made)

/-- A report without a form is not saved. -/
theorem outcome_save_error (d made : Disk) (root : String) (fs : List (String × List UInt8))
    (h : Keeps d root made fs) (r : Report) (e : Failure) (hform : formOf r = .error e) :
    ∃ d', Filing.outcome (save root r) d = (.error e, d') := by
  rw [formOf] at hform
  cases hencode : r.encode with
  | error f =>
      rw [hencode, Except.error.injEq] at hform
      rw [save, Filing.outcome_bind _ _ d made () (Filing.outcome_makeFolders _ d made h.1),
        hencode, ← hform]
      exact ⟨made, rfl⟩
  | ok form =>
      simp only [hencode] at hform
      split at hform
      · cases hform
      · rename_i hlong
        rw [← Except.error.inj hform]
        exact outcome_save_long d made root fs h r form hencode hlong

end ReportStore

end CodeAudit
