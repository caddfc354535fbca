import CodeAudit.Proofs.Disk.Changes
import CodeAudit.Proofs.Operation
import CodeAudit.Proofs.Store.Reading

/-!
# Where a Report Is Written

What a report that is saved changes in a project of any kind.

The folder of reports may hold anything, and any of its names may be a link, so nothing is said
here about its list of files. Instead a save is known by the paths it writes. There are four of
them, two files and their temporary names, and if no link stands at any of them, what is changed
are files at the places they lead to. Everything else on the disk stays, and the latest report is
the one that was saved.

Before anything is written the folder of reports is made, which is a change of another kind. So the
two disks that are compared are the one in which the folder has been made and the one at the end.

## Main definitions

* `ReportStore.prepared`: The disk with the folder of reports made.
* `ReportStore.writes`: The paths at which a report is written.
* `ReportStore.writeForm`: Writes the two files of a report.
* `Disk.NoLinkAt`: No link stands at a path.

## Theorems

* `Disk.locate_of_noLinkAt`: Whether a link is followed makes no difference.
* `ReportStore.rewrites_replaceFile`: A file is put in place.
* `ReportStore.cases_of_save`: A save fails before anything is written, or writes two files.
* `ReportStore.exists_of_save`: A report that is saved is a success of each step.
* `ReportStore.rewrites_save`: A report is saved.
-/

namespace CodeAudit

namespace Disk

/-! ## Paths without links -/

/-- No link stands at a path. -/
def NoLinkAt (d : Disk) (path : String) : Prop :=
  ∀ place, d.locate false path = .ok place → ∀ t, d.at? place ≠ some (.link t)

/-- What a result has to satisfy, if there is one, can be decided. -/
instance decidableForallOk {ε α : Type} (x : Except ε α) (P : α → Prop)
    [∀ a, Decidable (P a)] : Decidable (∀ a, x = .ok a → P a) :=
  match x with
  | .ok a => decidable_of_iff (P a) ⟨fun h _ heq => Except.ok.inj heq ▸ h, fun h => h a rfl⟩
  | .error _ => .isTrue fun _ heq => nomatch heq

instance decidableNotLink (e : Option Entry) : Decidable (∀ t, e ≠ some (.link t)) :=
  match e with
  | some (.link t) => .isFalse fun h => h t rfl
  | some (.file _) => .isTrue fun _ heq => nomatch heq
  | some (.folder _) => .isTrue fun _ heq => nomatch heq
  | none => .isTrue fun _ heq => nomatch heq

instance (d : Disk) (path : String) : Decidable (d.NoLinkAt path) :=
  inferInstanceAs (Decidable (∀ place, d.locate false path = .ok place → _))

/-- Where no link stands, it makes no difference whether one would be followed. -/
theorem locate_of_noLinkAt (d : Disk) (path : String) (h : d.NoLinkAt path) (place : Place)
    (hplace : d.locate false path = .ok place) : d.locate true path = .ok place := by
  -- A path without anything in it leads nowhere, so this one has steps.
  have hpath := ne_empty_of_locate d false path place hplace
  have hlink := h place hplace
  rw [locate_iff_leads d _ path hpath] at hplace ⊢
  exact hplace.follow_last hlink

/-- Rewriting files makes no links. -/
theorem Rewrites.noLinkAt {places : List Place} {d d' : Disk} (h : Rewrites places d d')
    (path : String) (hpath : d.NoLinkAt path) : d'.NoLinkAt path := by
  intro place hplace t ht
  -- Files were rewritten at some places, and at all others a link would have been there before.
  by_cases hmem : place ∈ places
  · exact h.after place hmem _ ht trivial
  · have halike := (h.alike place hmem).symm
    rw [ht] at halike
    exact hpath place (h.symm.locate false path place hplace) t (halike.eq fun _ heq => nomatch heq)

end Disk

/-! ## Steps of operations -/

namespace Filing

/-- An operation of two parts fails in the first one, or ends as the second one does. -/
theorem cases_of_outcome_bind {α β : Type} (x : Filing α) (f : α → Filing β) (d d'' : Disk)
    (result : Except Failure β) (h : outcome (x >>= f) d = (result, d'')) :
    (∃ e, outcome x d = (.error e, d'') ∧ result = .error e) ∨
      ∃ a d', outcome x d = (.ok a, d') ∧ outcome (f a) d' = (result, d'') :=
  cases_of_run_bind x f d d'' result h

/-- An operation of two parts that succeeds is a success of both. -/
theorem exists_of_outcome_bind {α β : Type} (x : Filing α) (f : α → Filing β) (d d'' : Disk)
    (b : β) (h : outcome (x >>= f) d = (.ok b, d'')) :
    ∃ a d', outcome x d = (.ok a, d') ∧ outcome (f a) d' = (.ok b, d'') :=
  exists_of_run_bind x f d d'' b h

theorem ok_of_outcome_run (path : String) (operation : Disk → Except FileError Disk) (d d' : Disk)
    (h : outcome (run path operation) d = (.ok (), d')) : operation d = .ok d' := by
  rw [run, outcome_bind _ _ d d d (outcome_get d)] at h
  cases hoperation : operation d with
  | error e =>
      rw [hoperation] at h
      cases (Prod.mk.inj h).1
  | ok made =>
      rw [hoperation] at h
      exact congrArg Except.ok (Prod.mk.inj h).2

/-- An operation on a disk that fails leaves it as it is. -/
theorem eq_of_outcome_run (path : String) (operation : Disk → Except FileError Disk) (d d' : Disk)
    (e : Failure) (h : outcome (run path operation) d = (.error e, d')) : d' = d := by
  rw [run, outcome_bind _ _ d d d (outcome_get d)] at h
  cases hoperation : operation d with
  | error e' =>
      rw [hoperation] at h
      exact (Prod.mk.inj h).2.symm
  | ok made =>
      rw [hoperation] at h
      cases (Prod.mk.inj h).1

/-- Folders are made as far as they can be. -/
theorem buildFolders_of_outcome (path : String) (d d' : Disk) (result : Except Failure Unit)
    (h : outcome (makeFolders path) d = (result, d')) :
    (d.buildFolders (path.length + 1) path).1 = d' ∧
      (result = .ok () → (d.buildFolders (path.length + 1) path).2 = none) := by
  rw [makeFolders, outcome_bind _ _ d d d (outcome_get d)] at h
  rcases hbuild : d.buildFolders (path.length + 1) path with ⟨made, mistake⟩
  simp only [hbuild] at h
  cases mistake with
  | none => exact ⟨(Prod.mk.inj h).2, fun _ => rfl⟩
  | some e =>
      refine ⟨(Prod.mk.inj h).2, fun hok => ?_⟩
      rw [hok] at h
      cases (Prod.mk.inj h).1

end Filing

namespace ReportStore

/-- A file that is put in place is written and then moved. -/
theorem exists_of_replaceFile (d d' : Disk) (path : String) (content : List UInt8)
    (h : Filing.outcome (replaceFile path content) d = (.ok (), d')) :
    ∃ written, d.writeFile (path ++ ".tmp") content = .ok written ∧
      written.moveOver (path ++ ".tmp") path = .ok d' := by
  unfold replaceFile at h
  rcases Filing.exists_of_outcome_bind _ _ d d' () h with ⟨_, written, hwrite, hmove⟩
  exact ⟨written, Filing.ok_of_outcome_run _ _ d _ hwrite,
    Filing.ok_of_outcome_run _ _ written d' hmove⟩

/-- A file that is put in place is at the place its path leads to. On the way it is at that of its
    temporary name, where it leaves nothing. -/
theorem rewrites_replaceFile (d d' : Disk) (hd : d.Proper) (path : String)
    (content : List UInt8) (h : Filing.outcome (replaceFile path content) d = (.ok (), d'))
    (htemporary : d.NoLinkAt (path ++ ".tmp")) (hpath : d.NoLinkAt path) :
    ∃ a b, d.locate true (path ++ ".tmp") = .ok a ∧ d.locate true path = .ok b ∧
      Disk.Rewrites [a, b] d d' ∧ d'.at? b = some (.file content) ∧ (a ≠ b → d'.at? a = none) ∧
      d'.Proper := by
  rcases exists_of_replaceFile d d' path content h with ⟨written, hwrite, hmove⟩
  rcases Disk.rewrites_writeFile d written _ content hwrite with
    ⟨a, ha, hwritten, hcontent, hproper⟩
  rcases Disk.exists_of_moveOver written d' (hproper hd) _ _ hmove with
    ⟨a', b, e, ha', hb, hat, hfolder, hmoved⟩
  -- Writing follows a link at the temporary name and moving does not; there is none.
  have hsame := d.locate_of_noLinkAt _ htemporary a' (hwritten.symm.locate false _ a' ha')
  rw [ha, Except.ok.injEq] at hsame
  subst hsame
  rw [hcontent, Option.some.injEq] at hat
  subst hat
  have hmoved := hmoved fun _ heq => by cases heq
  have hrewrites := hmoved.rewrites (Disk.noWay_of_file written a content hcontent)
    (Disk.noWay_of_not written b hfolder (hwritten.noLinkAt path hpath b hb))
  refine ⟨a, b, ha, ?_, ?_, hmoved.put, hmoved.taken, hmoved.proper⟩
  · exact d.locate_of_noLinkAt path hpath b (hwritten.symm.locate false path b hb)
  -- Both steps change the place of the temporary name, and the second one that of the file as
  -- well.
  · refine (hwritten.trans hrewrites).congr fun place => ?_
    rw [List.mem_append, List.mem_singleton, List.mem_cons]
    exact ⟨fun hmem => hmem.elim Or.inl id, Or.inr⟩

/-! ## Saving -/

/-- The disk with the folder of reports made, as far as it can be. -/
def prepared (d : Disk) (root : String) : Disk :=
  (d.buildFolders ((folder root).length + 1) (folder root)).1

theorem proper_prepared (d : Disk) (hd : d.Proper) (root : String) : (prepared d root).Proper :=
  (Disk.grows_buildFolders _ d (folder root)).2 hd

/-- The paths at which a report that ends at a time is written, in a folder that is there: its own
    and that of the latest report, each with its temporary name. -/
def writes (d : Disk) (root : String) (endTime : Int) : List String :=
  [unusedPath d (folder root) endTime ++ ".tmp", unusedPath d (folder root) endTime,
    latestPath root ++ ".tmp", latestPath root]

/-- A document that is put in place can be written. -/
theorem hasShortIntegers_of_replaceDocument (d d' : Disk) (path : String) (form : Value)
    (h : Filing.outcome (replaceDocument path form) d = (.ok (), d')) :
    Json.hasShortIntegers form = true := by
  rw [replaceDocument] at h
  rcases Filing.exists_of_outcome_bind _ _ d d' () h with ⟨_, written, _, hmove⟩
  split at hmove
  · assumption
  · cases (Prod.mk.inj hmove).1

/-- Writes the two files of a report. -/
def writeForm (root path : String) (form : Value) : Filing String := do
  replaceDocument path form
  replaceDocument (latestPath root) form
  return path

/-- A save fails before anything is written, or writes the two files of the report in the folder
    that has been made. -/
theorem cases_of_save (d d' : Disk) (root : String) (r : Report) (result : Except Failure String)
    (h : Filing.outcome (save root r) d = (result, d')) :
    (∃ e, result = .error e ∧ d' = prepared d root) ∨
      ∃ form, d.buildFolders ((folder root).length + 1) (folder root) = (prepared d root, none) ∧
        r.encode = .ok form ∧
        Filing.outcome (writeForm root (unusedPath (prepared d root) (folder root) r.endTime) form)
          (prepared d root) = (result, d') := by
  -- The steps are taken one by one. Up to the first file they change nothing but the folder.
  rw [save] at h
  rcases Filing.cases_of_outcome_bind _ _ d d' result h with ⟨e, hmake, hfails⟩ |
    ⟨_, made, hmake, h⟩
  · exact Or.inl ⟨e, hfails, (Filing.buildFolders_of_outcome _ d d' _ hmake).1.symm⟩
  rcases Filing.buildFolders_of_outcome _ d made _ hmake with ⟨hmade, hbuild⟩
  rw [← prepared] at hmade
  subst hmade
  rcases Filing.cases_of_outcome_bind _ _ _ d' result h with ⟨e, hencode, hfails⟩ |
    ⟨form, _, hencode, h⟩
  · rw [Filing.outcome_ofExcept, Prod.mk.injEq] at hencode
    exact Or.inl ⟨e, hfails, hencode.2.symm⟩
  rw [Filing.outcome_ofExcept, Prod.mk.injEq] at hencode
  rcases hencode with ⟨hencode, rfl⟩
  rw [Filing.outcome_bind _ _ _ _ _ (Filing.outcome_get _)] at h
  rcases Filing.cases_of_outcome_bind _ _ _ d' result h with ⟨e, hpath, hfails⟩ |
    ⟨path, _, hpath, h⟩
  · rw [Filing.outcome_ofExcept, Prod.mk.injEq] at hpath
    exact Or.inl ⟨e, hfails, hpath.2.symm⟩
  rw [Filing.outcome_ofExcept, Prod.mk.injEq] at hpath
  rcases hpath with ⟨hpath, rfl⟩
  refine Or.inr ⟨form, ?_, ?_, ?_⟩
  · rw [prepared, ← hbuild rfl]
  · cases hresult : r.encode with
    | error f =>
        rw [hresult] at hencode
        cases hencode
    | ok v =>
        rw [hresult, orFailure, Except.ok.injEq] at hencode
        rw [hencode]
  · rw [freshPath] at hpath
    split at hpath
    · rw [← Except.ok.inj hpath] at h
      exact h
    · cases hpath

/-- A report that is saved is a success of each step. -/
theorem exists_of_save (d d' : Disk) (root : String) (r : Report) (path : String)
    (h : Filing.outcome (save root r) d = (.ok path, d')) :
    ∃ form kept,
      d.buildFolders ((folder root).length + 1) (folder root) = (prepared d root, none) ∧
      formOf r = .ok form ∧
      Filing.outcome (replaceFile (unusedPath (prepared d root) (folder root) r.endTime)
        (contentOf form)) (prepared d root) = (.ok (), kept) ∧
      Filing.outcome (replaceFile (latestPath root) (contentOf form)) kept = (.ok (), d') := by
  rcases cases_of_save d d' root r _ h with ⟨e, hfails, _⟩ | ⟨form, hbuild, hencode, h⟩
  · cases hfails
  rw [writeForm] at h
  rcases Filing.exists_of_outcome_bind _ _ _ d' path h with ⟨_, kept, hkeep, h⟩
  rcases Filing.exists_of_outcome_bind _ _ kept d' path h with ⟨_, last, hlast, h⟩
  have hend : last = d' := (Prod.mk.inj h).2
  subst hend
  -- What is put in place can be written, so that the report has a form.
  have hshort := hasShortIntegers_of_replaceDocument _ kept _ form hkeep
  rw [replaceDocument_eq _ form hshort] at hkeep hlast
  exact ⟨form, kept, hbuild, formOf_of_encode r form hencode hshort, hkeep, hlast⟩

/-- A report that is saved is written at four paths, and is the latest one. Nothing else on the
    disk is changed, once the folder of reports has been made. -/
theorem rewrites_save (d d' : Disk) (hd : d.Proper) (root : String) (r : Report) (path : String)
    (h : Filing.outcome (save root r) d = (.ok path, d'))
    (hlinks : ∀ p ∈ writes (prepared d root) root r.endTime, (prepared d root).NoLinkAt p) :
    ∃ form places, formOf r = .ok form ∧ Disk.Rewrites places (prepared d root) d' ∧
      (∀ place ∈ places, ∃ p ∈ writes (prepared d root) root r.endTime,
        (prepared d root).locate true p = .ok place) ∧
      d'.lookup (latestPath root) = .ok (.file (contentOf form)) ∧ d'.Proper := by
  rcases exists_of_save d d' root r path h with ⟨form, kept, _, hform, hkeep, hlast⟩
  have hproper := proper_prepared d hd root
  simp only [writes, List.forall_mem_cons, List.not_mem_nil, false_implies, implies_true,
    and_true] at hlinks
  rcases hlinks with ⟨hlink₁, hlink₂, hlink₃, hlink₄⟩
  rcases rewrites_replaceFile _ kept hproper _ _ hkeep hlink₁ hlink₂ with
    ⟨a, b, ha, hb, hkept, _, _, hproper'⟩
  rcases rewrites_replaceFile kept d' hproper' _ _ hlast (hkept.noLinkAt _ hlink₃)
    (hkept.noLinkAt _ hlink₄) with ⟨a', b', ha', hb', hrewrites, hfile, _, hproper''⟩
  refine ⟨form, [a, b] ++ [a', b'], hform, hkept.trans hrewrites, ?_, ?_, hproper''⟩
  · -- The places of the latest report are the same on the disk before.
    have hback := hkept.symm.locate true
    simp only [writes, List.cons_append, List.nil_append, List.forall_mem_cons, List.not_mem_nil,
      false_implies, implies_true, and_true, List.exists_mem_cons_iff, false_and, exists_false,
      or_false]
    exact ⟨Or.inl ha, Or.inr (Or.inl hb), Or.inr (Or.inr (Or.inl (hback _ a' ha'))),
      Or.inr (Or.inr (Or.inr (hback _ b' hb')))⟩
  · rw [Disk.lookup_of_locate d' _ b' (hrewrites.locate true _ b' hb'), hfile]

end ReportStore

end CodeAudit
