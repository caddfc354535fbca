import CodeAudit.Proofs.Disk.Made
import CodeAudit.Proofs.Store.Writes

/-!
# What Saving a Report Adds

What is on the disk after a report was saved and was not there before.

Saving makes folders and writes four names, and in a folder of any kind a name may be taken by a
link or by something that was left there. `Tidy` excludes both, and then a save can be told without
the paths it took: a file that was not there, the file of the latest report with the same bytes, and
the folders of the reports if they were missing. A file is written under a temporary name first. It
was not there before and is gone afterwards, so that the two names are all that differs.

## Main definitions

* `ReportStore.Tidy`: No link and no temporary file is among the reports of a project.
* `ReportStore.LinklessAt`: At a place there is a folder without links.
* `ReportStore.TidyAt`: At a place there is a folder with no link and no temporary file.
* `ReportStore.Adds`: What differs between two disks is one report.

## Theorems

* `ReportStore.LinklessAt.rewrites_replaceFile`: A file is put in place without a link on the way.
* `ReportStore.rewrites_replaceFile_join`: A file that is put in place is all that changes.
* `ReportStore.adds_of_save`: A report that is saved is added.
* `ReportStore.Adds.write`: A further file with the same bytes.
-/

namespace CodeAudit

namespace ReportStore

/-! ## Tidy folders -/

/-- An entry that does not get in the way of a report: no link, and no file with a temporary
    name. -/
def IsTidy (p : String × Entry) : Prop :=
  (∀ target, p.2 ≠ .link target) ∧
    ∀ name content, p.1 = name ++ ".tmp" → p.2 ≠ .file content

/-- No link and no file with a temporary name is in the folder of the reports of a project. -/
def Tidy (d : Disk) (root : String) : Prop :=
  ∀ entries, d.lookup (folder root) = .ok (.folder entries) → ∀ p ∈ entries, IsTidy p

/-- At a place there is a folder with no link in it. -/
structure LinklessAt (d : Disk) (place : Place) : Prop where
  folder : ∃ entries, d.at? place = some (.folder entries)
  noLink : ∀ n target, d.at? (n :: place) ≠ some (.link target)

/-- At a place there is a folder with no link and no file with a temporary name. -/
structure TidyAt (d : Disk) (place : Place) : Prop extends LinklessAt d place where
  noTemporary : ∀ name content, d.at? ((name ++ ".tmp") :: place) ≠ some (.file content)

/-- What stands under a name of a folder is one of its entries. -/
theorem mem_of_at?_cons (d : Disk) (place : Place) (entries : List (String × Entry))
    (hat : d.at? place = some (.folder entries)) (n : String) (e : Entry)
    (he : d.at? (n :: place) = some e) : (n, e) ∈ entries := by
  rw [Disk.at?_cons d place entries hat, List.lookup_eq_some_iff] at he
  rcases he with ⟨front, back, heq, _⟩
  rw [heq]
  exact List.mem_append_right front List.mem_cons_self

theorem linklessAt_of_entries (d : Disk) (place : Place) (entries : List (String × Entry))
    (hat : d.at? place = some (.folder entries)) (h : ∀ p ∈ entries, ∀ target, p.2 ≠ .link target) :
    LinklessAt d place :=
  ⟨⟨entries, hat⟩, fun n target hlink =>
    h _ (mem_of_at?_cons d place entries hat n _ hlink) target rfl⟩

theorem tidyAt_of_entries (d : Disk) (place : Place) (entries : List (String × Entry))
    (hat : d.at? place = some (.folder entries)) (h : ∀ p ∈ entries, IsTidy p) :
    TidyAt d place := by
  refine ⟨linklessAt_of_entries d place entries hat fun p hp => (h p hp).1,
    fun name content hfile => ?_⟩
  exact (h _ (mem_of_at?_cons d place entries hat _ _ hfile)).2 name content rfl rfl

namespace LinklessAt

variable {d : Disk} {place : Place}

theorem locate_join (h : LinklessAt d place) (followLast : Bool) (path : String)
    (hplace : d.locate true path = .ok place) (n : String) (hn : Path.IsName n.toList) :
    d.locate followLast (Disk.join path n) = .ok (n :: place) := by
  rcases h.folder with ⟨entries, hat⟩
  -- A name in the folder stands for no link, so that following one or not makes no difference.
  refine d.locate_join followLast path place entries hplace hat n hn fun _ t ht => ?_
  refine h.noLink n t ?_
  rw [Disk.at?_cons d place entries hat]
  exact ht

theorem noLinkAt_join (h : LinklessAt d place) (path : String)
    (hplace : d.locate true path = .ok place) (n : String) (hn : Path.IsName n.toList) :
    d.NoLinkAt (Disk.join path n) := by
  intro place' hplace' t
  rw [h.locate_join false path hplace n hn, Except.ok.injEq] at hplace'
  rw [← hplace']
  exact h.noLink n t

/-- Rewriting files puts no links into a folder. -/
theorem rewrites (h : LinklessAt d place) {d' : Disk} {places : List Place}
    (hrewrites : Disk.Rewrites places d d') : LinklessAt d' place := by
  rcases h.folder with ⟨entries, hat⟩
  refine ⟨hrewrites.sameWays.folder place entries hat, fun n target hlink => ?_⟩
  refine h.noLink n target ?_
  exact hrewrites.symm.sameWays.link (n :: place) target hlink

end LinklessAt

namespace TidyAt

variable {d : Disk} {place : Place}

/-- A file under a name that is not temporary leaves the folder tidy. -/
theorem rewrites (h : TidyAt d place) {d' : Disk} {name : String}
    (hrewrites : Disk.Rewrites [name :: place] d d')
    (hname : ∀ other, name ≠ other ++ ".tmp") : TidyAt d' place := by
  refine ⟨h.toLinklessAt.rewrites hrewrites, fun other old hold => ?_⟩
  -- The file that was written has another name than any temporary one.
  have halike := (hrewrites.alike ((other ++ ".tmp") :: place) (by
    rw [List.mem_singleton, List.cons.injEq, not_and]
    exact fun heq => absurd heq.symm (hname other))).symm
  rw [hold] at halike
  exact h.noTemporary other old (halike.eq fun _ heq => by cases heq)

end TidyAt

/-- In a folder without links a file that is put in place is under its name. On the way it is under
    its temporary name, where it leaves nothing. -/
theorem LinklessAt.rewrites_replaceFile {d d' : Disk} {place : Place} (h : LinklessAt d place)
    (hd : d.Proper) (path : String) (hpath : Disk.EndsInName path)
    (hplace : d.locate true path = .ok place) (name : String) (hname : Path.IsName name.toList)
    (htemporary : Path.IsName (name ++ ".tmp").toList) (content : List UInt8)
    (hreplace : Filing.outcome (replaceFile (Disk.join path name) content) d = (.ok (), d')) :
    Disk.Rewrites [(name ++ ".tmp") :: place, name :: place] d d' ∧
      d'.at? (name :: place) = some (.file content) ∧
      d'.at? ((name ++ ".tmp") :: place) = none ∧ d'.Proper := by
  have hjoin := join_temporary path hpath name hname htemporary
  -- Without links both paths lead to the names in the folder.
  rcases ReportStore.rewrites_replaceFile d d' hd _ content hreplace
    (by rw [hjoin]; exact h.noLinkAt_join path hplace _ htemporary)
    (h.noLinkAt_join path hplace name hname) with
    ⟨a, b, ha, hb, hrewrites, hfile, hgone, hproper⟩
  rw [hjoin, h.locate_join true path hplace _ htemporary, Except.ok.injEq] at ha
  rw [h.locate_join true path hplace name hname, Except.ok.injEq] at hb
  subst ha hb
  refine ⟨hrewrites, hfile, hgone ?_, hproper⟩
  rw [Ne, List.cons.injEq, not_and]
  exact fun heq => absurd heq (temporary_ne_self name)

/-- In a tidy folder a file that is put in place is all that changes. -/
theorem rewrites_replaceFile_join (d d' : Disk) (hd : d.Proper) (path : String)
    (hpath : Disk.EndsInName path) (place : Place) (hplace : d.locate true path = .ok place)
    (htidy : TidyAt d place) (name : String) (hname : Path.IsName name.toList)
    (htemporary : Path.IsName (name ++ ".tmp").toList) (content : List UInt8)
    (h : Filing.outcome (replaceFile (Disk.join path name) content) d = (.ok (), d')) :
    Disk.Rewrites [name :: place] d d' ∧ d'.at? (name :: place) = some (.file content) ∧
      d'.Proper := by
  rcases htidy.toLinklessAt.rewrites_replaceFile hd path hpath hplace name hname htemporary content
    h with ⟨hrewrites, hfile, hgone, hproper⟩
  -- Nothing is under the temporary name, before and afterwards.
  have hnone : d.at? ((name ++ ".tmp") :: place) = none := by
    cases hat : d.at? ((name ++ ".tmp") :: place) with
    | none => rfl
    | some x =>
        have hway := hrewrites.before _ List.mem_cons_self x hat
        cases x with
        | file old => exact absurd hat (htidy.noTemporary name old)
        | folder entries => exact absurd trivial hway
        | link target => exact absurd trivial hway
  refine ⟨⟨hrewrites.cwd, fun other hother => ?_, ?_, ?_⟩, hfile, hproper⟩
  · by_cases htmp : other = (name ++ ".tmp") :: place
    · rw [htmp, hnone, hgone]
      exact Entry.alike_refl none
    · refine hrewrites.alike other ?_
      rw [List.mem_cons, not_or]
      exact ⟨htmp, hother⟩
  · exact fun other hother => hrewrites.before other (List.mem_cons_of_mem _ hother)
  · exact fun other hother => hrewrites.after other (List.mem_cons_of_mem _ hother)

/-- The path that is found for a report is that of a name which is not there. -/
theorem exists_unusedPath (d : Disk) (path : String) (place : Place)
    (hplace : d.locate true path = .ok place) (hlinkless : LinklessAt d place) (endTime : Int) :
    ∃ number, unusedPath d path endTime = filePath path endTime number ∧
      d.at? (fileName endTime number :: place) = none := by
  rcases hlinkless.folder with ⟨entries, hat⟩
  have hnames : d.names path = .ok (sortTexts (entries.map Prod.fst)) := by
    rw [Disk.names, Disk.lookup_of_locate d path place hplace, hat]
  -- Whether a path is taken shows in the entries of the folder, which its search goes by.
  have hexists : ∀ number, d.exists? (filePath path endTime number) =
      (entries.lookup (fileName endTime number)).isSome := by
    intro number
    have hlocate := hlinkless.locate_join true path hplace _ (isName_fileName endTime number)
    rw [filePath, Disk.exists?, Disk.lookup_of_locate d _ _ hlocate,
      Disk.at?_cons d place entries hat]
    cases entries.lookup (fileName endTime number) with
    | none => rfl
    | some e => rfl
  rcases searchEndsAt_of_names d path entries hnames endTime hexists with ⟨number, hunused, hends⟩
  refine ⟨number, hunused, ?_⟩
  have hfree := hends.1
  rw [hexists] at hfree
  rw [Disk.at?_cons d place entries hat]
  exact Option.isNone_iff_eq_none.mp (Option.isSome_eq_false_iff.mp hfree)

/-! ## One report more -/

/-- A disk differs from another by one report. There is a new file in the folder of reports, the
    file of the latest report has the same bytes, and so has a further file if there is one. That
    folder and the one it is in may be new. -/
structure Adds (d d' : Disk) (root : String) (place : Place) (name : String)
    (output : Option Place) (content : List UInt8) : Prop where
  cwd : d'.cwd = d.cwd
  located : d'.locate true (folder root) = .ok place
  fresh : d.at? (name :: place) = none
  report : d'.at? (name :: place) = some (.file content)
  latest : d'.at? (latestName :: place) = some (.file content)
  exported : ∀ q, output = some q → d'.at? q = some (.file content)
  alike : ∀ other, other ≠ name :: place → other ≠ latestName :: place → output ≠ some other →
    Entry.Alike (d.at? other) (d'.at? other) ∨
      Disk.NewFolder d d' other ∧ (other = place ∨ other = place.tail)

/-- A report is added by making its folder and writing two files in it. -/
theorem adds_of_rewrites (d made kept d' : Disk) (root : String) (place : Place)
    (entries : List (String × Entry)) (hmade : d.MadeFor made (folder root) place entries)
    (endTime : Int) (number : Nat) (content : List UInt8)
    (hfree : made.at? (fileName endTime number :: place) = none)
    (hkept : Disk.Rewrites [fileName endTime number :: place] made kept)
    (hreport : kept.at? (fileName endTime number :: place) = some (.file content))
    (hrewrites : Disk.Rewrites [latestName :: place] kept d')
    (hlatest : d'.at? (latestName :: place) = some (.file content)) :
    Adds d d' root place (fileName endTime number) none content := by
  refine ⟨?_, ?_, ?_, ?_, hlatest, (fun q hq => by cases hq), ?_⟩
  · rw [hrewrites.cwd, hkept.cwd, hmade.cwd]
  · exact hrewrites.locate true _ place (hkept.locate true _ place hmade.located)
  -- What is new as a folder is no report, so the name was free before the folder was made.
  · rcases hmade.alike (fileName endTime number :: place) with halike | ⟨⟨_, inside, hnew⟩, _⟩
    · rw [hfree] at halike
      exact halike.symm.eq fun _ heq => by cases heq
    · rw [hfree] at hnew
      cases hnew
  · refine hrewrites.file _ ?_ content hreport
    rw [List.mem_singleton, List.cons.injEq, not_and]
    exact fun heq => absurd heq (fileName_ne_latestName endTime number)
  · intro other hname hlast _
    have hlater : Entry.Alike (made.at? other) (d'.at? other) :=
      (hkept.alike other (by rw [List.mem_singleton]; exact hname)).trans
        (hrewrites.alike other (by rw [List.mem_singleton]; exact hlast))
    -- A place is as it was, or is a folder that was made. What was written later does not
    -- change that.
    rcases hmade.alike other with halike | ⟨⟨hnone, inside, hnew⟩, hwhere⟩
    · exact Or.inl (halike.trans hlater)
    · rw [hnew] at hlater
      exact Or.inr ⟨⟨hnone, hlater.folder⟩, hwhere⟩

/-- A report that is saved in a tidy folder is added. -/
theorem adds_of_save (d d' : Disk) (hd : d.Proper) (root : String)
    (hroot : d.isFolder root = true) (htidy : Tidy d root) (r : Report) (path : String)
    (h : Filing.outcome (save root r) d = (.ok path, d')) :
    ∃ form place number, formOf r = .ok form ∧
      Adds d d' root place (fileName r.endTime number) none (contentOf form) := by
  rcases exists_of_save d d' root r path h with ⟨form, kept, hbuild, hform, hkeep, hlast⟩
  have hproper := proper_prepared d hd root
  generalize prepared d root = made at hbuild hkeep hproper
  rcases exists_fuel root with ⟨fuel, hfuel⟩
  rw [hfuel, folder_eq] at hbuild
  rcases Disk.madeFor_of_buildFolders d made root ".securecode" "reports" isName_hidden
    isName_reports hroot fuel hbuild with ⟨place, entries, hmade⟩
  rw [← folder_eq] at hmade
  -- The folder was there and tidy, or is new and empty.
  have hentries : ∀ p ∈ entries, IsTidy p := by
    rcases hmade.old with heq | heq
    · refine htidy entries ?_
      rw [← heq, Disk.lookup_of_locate made _ place hmade.located, hmade.folder]
    · rw [heq]
      exact fun p hp => absurd hp List.not_mem_nil
  have hmadeTidy := tidyAt_of_entries made place entries hmade.folder hentries
  rcases exists_unusedPath made (folder root) place hmade.located hmadeTidy.toLinklessAt
    r.endTime with ⟨number, hunused, hfree⟩
  rw [hunused, filePath] at hkeep
  have hends := endsInName_folder root
  rcases rewrites_replaceFile_join made kept hproper _ hends place hmade.located hmadeTidy _
    (isName_fileName _ _) (isName_temporary_fileName _ _) _ hkeep with ⟨hkept, hreport, hproper'⟩
  have hkeptTidy := hmadeTidy.rewrites hkept fun other =>
    temporary_ne other _ (fileName_endsInJson r.endTime number)
  rcases rewrites_replaceFile_join kept d' hproper' _ hends place
    (hkept.locate true _ place hmade.located) hkeptTidy _ isName_latestName
    isName_temporary_latestName _ hlast with ⟨hrewrites, hlatest, _⟩
  exact ⟨form, place, number, hform, adds_of_rewrites d made kept d' root place entries hmade
    r.endTime number _ hfree hkept hreport hrewrites hlatest⟩

/-- A further file with the same bytes may be written over anything but a folder. -/
theorem Adds.write {d d' : Disk} {root : String} {place : Place} {name : String}
    {content : List UInt8} (h : Adds d d' root place name none content) (d'' : Disk) (q : Place)
    (hrewrites : Disk.Rewrites [q] d' d'') (hfile : d''.at? q = some (.file content)) :
    Adds d d'' root place name (some q) content := by
  have hkept : ∀ other, d'.at? other = some (.file content) →
      d''.at? other = some (.file content) := by
    intro other hother
    by_cases heq : other = q
    · rw [heq, hfile]
    · exact hrewrites.file other (by rw [List.mem_singleton]; exact heq) content hother
  refine ⟨hrewrites.cwd.trans h.cwd, hrewrites.locate true _ place h.located, h.fresh,
    hkept _ h.report, hkept _ h.latest, ?_, ?_⟩
  · intro q' hq'
    rw [← Option.some.inj hq', hfile]
  · intro other hname hlast hq
    have hlater := hrewrites.alike other (by
      rw [List.mem_singleton]
      exact fun heq => hq (congrArg some heq.symm))
    rcases h.alike other hname hlast (fun heq => by cases heq) with
      halike | ⟨⟨hnone, inside, hnew⟩, hwhere⟩
    · exact Or.inl (halike.trans hlater)
    · rw [hnew] at hlater
      exact Or.inr ⟨⟨hnone, hlater.folder⟩, hwhere⟩

end ReportStore

end CodeAudit
