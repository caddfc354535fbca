import CodeAudit.Proofs.Disk.Moved
import CodeAudit.Proofs.Store.Writes

/-!
# The Latest Report on Any Disk

What is read as the latest report once a report was saved.

The file of the latest report is written under a temporary name and moved to its place. If a link
stands at the temporary name, it is the link that is moved, and what was written is at the end of
it. Afterwards the path of the latest report may lead to no file at all: a link from the temporary
name to that of the latest report leads to itself once it is moved there. But if there is a file at
the end of that path, it is the one that was written. This holds on every disk, and it is what
`LatestIs` says.

## Main definitions

* `ReportStore.LatestIs`: The file of the latest report, if there is one, has a content.

## Theorems

* `ReportStore.moved_of_replaceFile`: What putting a file in place does.
* `ReportStore.content_of_replaceFile`: A file at the path that was written has what was written.
* `ReportStore.latestIs_of_save`: The latest report is the one that was saved.
* `ReportStore.LatestIs.writeFile`: It stays so if the same is written elsewhere.
-/

namespace CodeAudit

namespace ReportStore

/-! ## Putting a file in place -/

/-- A file that is put in place is written at the end of the temporary path, and what stands at the
    temporary name, be it this file or a link to it, is moved. -/
theorem relocates_replaceFile (d d' : Disk) (hd : d.Proper) (path : String)
    (content : List UInt8) (h : Filing.outcome (replaceFile path content) d = (.ok (), d')) :
    ∃ written q a b e, written.locate true (path ++ ".tmp") = .ok q ∧
      written.at? q = some (.file content) ∧ written.locate false (path ++ ".tmp") = .ok a ∧
      written.locate false path = .ok b ∧ written.at? a = some e ∧
      (∀ entries, e ≠ .folder entries) ∧ Disk.Relocates a b e written d' := by
  rcases exists_of_replaceFile d d' path content h with ⟨written, hwrite, hmove⟩
  rcases Disk.rewrites_writeFile d written _ content hwrite with
    ⟨q, hq, hrewrites, hcontent, hproper⟩
  have hq' := hrewrites.locate true _ q hq
  rcases Disk.exists_of_moveOver written d' (hproper hd) _ _ hmove with
    ⟨a, b, e, ha, hb, hat, _, hmoved⟩
  have he : ∀ entries, e ≠ .folder entries := by
    rintro entries rfl
    -- Without a link at the temporary name this would be where the file was written.
    have hlink : written.NoLinkAt (path ++ ".tmp") := by
      intro place hplace t ht
      rw [ha, Except.ok.injEq] at hplace
      rw [← hplace, hat] at ht
      cases ht
    have hsame := written.locate_of_noLinkAt _ hlink a ha
    rw [hq', Except.ok.injEq] at hsame
    rw [← hsame, hcontent] at hat
    cases hat
  exact ⟨written, q, a, b, e, hq', hcontent, ha, hb, hat, he, hmoved he⟩

/-- Putting a file in place moves it, or a link that leads to it, to a name of the folder. -/
theorem moved_of_replaceFile (d d' : Disk) (hd : d.Proper) (folder name : String)
    (hfolder : Disk.EndsInName folder) (hname : Path.IsName name.toList)
    (htemporary : Path.IsName (name ++ ".tmp").toList) (content : List UInt8)
    (h : Filing.outcome (replaceFile (Disk.join folder name) content) d = (.ok (), d')) :
    ∃ written place,
      written.Leads true Disk.linkLimit (Disk.startOf folder written.cwd) (Disk.stepsOf folder)
        place ∧ Disk.Moved (name :: place) content written d' := by
  rcases relocates_replaceFile d d' hd _ content h with
    ⟨written, q, a, b, e, hq, hcontent, ha, hb, hat, he, hmoved⟩
  rw [join_temporary folder hfolder name hname htemporary] at hq ha
  -- The temporary name and the name that is written stand in one folder.
  rcases Disk.exists_of_locate_join written true folder hfolder _ htemporary q hq with
    ⟨place, _, hplace, hway⟩
  rcases Disk.exists_of_locate_join written false folder hfolder _ htemporary a ha with
    ⟨place₁, _, hplace₁, htaken⟩
  rcases Disk.exists_of_locate_join written false folder hfolder name hname b hb with
    ⟨place₂, _, hplace₂, hput⟩
  rw [← hplace.unique _ place₁ hplace₁] at htaken
  rw [← hplace.unique _ place₂ hplace₂] at hput
  have ha' : a = (name ++ ".tmp") :: place := by
    simpa using htaken.cases_of_name htemporary
  have hb' : b = name :: place := by
    simpa using hput.cases_of_name hname
  subst ha' hb'
  refine ⟨written, place, hplace, hmoved.inherits, ?_⟩
  rcases hway.cases_of_name htemporary with heq | ⟨_, t, links, ht, hway⟩
  · rw [← heq, hcontent] at hat
    rw [hmoved.put, ← hat]
    exact .inl rfl
  · rw [hat] at ht
    exact .inr ⟨t, links, q, hmoved.put.trans ht, hway, hcontent⟩

/-- If there is a file at a path at which a file was put in place, it has what was written. -/
theorem content_of_replaceFile (d d' : Disk) (hd : d.Proper) (folder name : String)
    (hfolder : Disk.EndsInName folder) (hname : Path.IsName name.toList)
    (htemporary : Path.IsName (name ++ ".tmp").toList) (content : List UInt8)
    (h : Filing.outcome (replaceFile (Disk.join folder name) content) d = (.ok (), d'))
    (found : List UInt8) (hfound : d'.lookup (Disk.join folder name) = .ok (.file found)) :
    found = content := by
  rcases moved_of_replaceFile d d' hd folder name hfolder hname htemporary content h with
    ⟨written, place, hplace, hmoved⟩
  -- The path leads through the same folder still.
  rcases Disk.locate_of_lookup d' _ _ hfound with ⟨target, htarget, hat⟩
  rcases Disk.exists_of_locate_join d' true folder hfolder name hname target htarget with
    ⟨place', _, hplace', hlast⟩
  rcases hlast.folder with ⟨inside, hinside⟩
  have hbefore := hmoved.leads_folder hplace' inside hinside
  rw [hmoved.inherits.cwd] at hbefore
  rw [hbefore.unique _ place hplace] at hlast
  exact hmoved.content_of_leads hname target hlast found hat

/-! ## The latest report -/

/-- The file of the latest report, if there is one, has a content. -/
def LatestIs (d : Disk) (root : String) (content : List UInt8) : Prop :=
  ∀ found, d.lookup (latestPath root) = .ok (.file found) → found = content

/-- The file of the latest report, if there is one, holds the report that was saved. -/
theorem latestIs_of_save (d d' : Disk) (hd : d.Proper) (root : String) (r : Report) (path : String)
    (h : Filing.outcome (save root r) d = (.ok path, d')) :
    ∃ form, formOf r = .ok form ∧ LatestIs d' root (contentOf form) := by
  rcases exists_of_save d d' root r path h with ⟨form, kept, _, hform, hkeep, hlast⟩
  rcases relocates_replaceFile _ kept (proper_prepared d hd root) _ _ hkeep with
    ⟨_, _, _, _, _, _, _, _, _, _, _, hmoved⟩
  refine ⟨form, hform, fun found hfound => ?_⟩
  exact content_of_replaceFile kept d' hmoved.proper (folder root) latestName
    (endsInName_folder root) isName_latestName isName_temporary_latestName (contentOf form) hlast
    found hfound

/-- What is written once more elsewhere leaves the latest report as it is, wherever that is. -/
theorem LatestIs.writeFile {d d' : Disk} {root : String} {content : List UInt8}
    (h : LatestIs d root content) (path : String) (hwrite : d.writeFile path content = .ok d') :
    LatestIs d' root content ∧ (d.isFile (latestPath root) = true →
      d'.isFile (latestPath root) = true) := by
  rcases Disk.rewrites_writeFile d d' path content hwrite with ⟨q, _, hrewrites, hcontent, _⟩
  constructor
  · intro found hfound
    rcases Disk.locate_of_lookup d' _ _ hfound with ⟨place, hplace, hat⟩
    by_cases heq : place = q
    · rw [heq, hcontent, Option.some.injEq, Entry.file.injEq] at hat
      exact hat.symm
    · have hplace' := hrewrites.symm.locate true _ place hplace
      have hat' := hrewrites.symm.file place (by simp [heq]) found hat
      exact h found (by rw [Disk.lookup_of_locate d _ place hplace', hat'])
  · intro hfile
    rcases Disk.exists_of_isFile d _ hfile with ⟨found, hfound⟩
    rcases Disk.locate_of_lookup d _ _ hfound with ⟨place, hplace, hat⟩
    rw [Disk.isFile, Disk.lookup_of_locate d' _ place (hrewrites.locate true _ place hplace)]
    by_cases heq : place = q
    · rw [heq, hcontent]
    · rw [hrewrites.file place (by simp [heq]) found hat]

end ReportStore

end CodeAudit
