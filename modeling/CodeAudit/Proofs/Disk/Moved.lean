import CodeAudit.Proofs.Disk.Changes
import CodeAudit.Proofs.Operation

/-!
# Links That Are Moved

Where a path leads after a file, or a link to it, was moved.

Moving changes one name of a folder, and what is moved may be a link. A link that is moved from one
name to another of the same folder leads where it has led, unless the way there goes through the
name it was moved to. Such a way would meet the link again each time it follows it, so it does
not end. In `Moved.past` that argument is the induction itself: where the moved link is met, the
rest of the way is a shorter one, for which the statement holds already. So it was there before the
link was moved, and the link led to the file then.

## Main definitions

* `Disk.Inherits`: What a disk has, another had, except at one place.
* `Disk.Moved`: A file was moved to a place, or a link that led to it.

## Theorems

* `Disk.Leads.cases_of_name`: What the last name of a path leads to.
* `Disk.Moved.past`: A way past something that was moved.
* `Disk.Moved.content_of_leads`: Where something that was moved leads.
* `Disk.Relocates.inherits`: What is there after something was moved.
-/

namespace CodeAudit

namespace Disk

/-! ## The name at the end of a path -/

namespace Leads

variable {d : Disk} {followLast : Bool} {links : Nat} {place target : Place}

/-- A name at the end of a way is where the way ends, unless a link stands there that is followed
    on. -/
theorem cases_of_name {n : String} (hn : Path.IsName n.toList)
    (h : Leads d followLast links place [n] target) :
    target = n :: place ∨ followLast = true ∧ ∃ t links', d.at? (n :: place) = some (.link t) ∧
      Leads d true links' (startOf t place) (stepsOf t) target := by
  -- Only one step is left, so that a way that goes on at it goes on by a link.
  cases h with
  | stay entries hat heq _ => exact absurd (by rw [heq]; rfl) hn.ne_here
  | up entries hat heq _ => exact absurd (by rw [heq]; rfl) hn.ne_up
  | missing => exact .inl rfl
  | keep => exact .inl rfl
  | follow entries hat _ t hlink _ hfollow hrest =>
      rw [List.append_nil] at hrest
      have hfollow := hfollow rfl
      subst hfollow
      exact .inr ⟨rfl, t, _, hlink, hrest⟩
  | on entries hat _ e he hlink hrest =>
      cases hrest with
      | done => exact .inl rfl

end Leads

/-- The path of a name leads through the folder it is joined to. -/
theorem exists_of_locate_join (d : Disk) (followLast : Bool) (path : String)
    (hpath : EndsInName path) (n : String) (hn : Path.IsName n.toList) (target : Place)
    (h : d.locate followLast (join path n) = .ok target) :
    ∃ place links, Leads d true linkLimit (startOf path d.cwd) (stepsOf path) place ∧
      Leads d followLast links place [n] target := by
  rw [locate_iff_leads d followLast _ (endsInName_join path n hn).ne_empty, startOf_join path n hn,
    stepsOf_join path hpath n hn] at h
  exact h.exists_of_append _ _ rfl (List.cons_ne_nil n [])

/-! ## Something that was moved -/

/-- What a disk has, another had, except at one place. -/
structure Inherits (b : Place) (d d' : Disk) : Prop where
  cwd : d'.cwd = d.cwd
  alike : ∀ place x, place ≠ b → d'.at? place = some x → Entry.Alike (some x) (d.at? place)

/-- Where something was put is the only place at which something is new. -/
theorem Relocates.inherits {a b : Place} {e : Entry} {d d' : Disk} (h : Relocates a b e d d') :
    Inherits b d d' := by
  refine ⟨h.cwd, fun place x hne hx => ?_⟩
  -- What was taken away leaves nothing, so all that is found at that place is what was put
  -- there.
  by_cases heq : place = a
  · subst heq
    rw [h.taken hne] at hx
    cases hx
  · rw [← hx]
    exact (h.alike place heq hne).symm

theorem Inherits.folder {b : Place} {d d' : Disk} (h : Inherits b d d')
    (hb : ∀ entries, d'.at? b ≠ some (.folder entries)) (place : Place)
    (entries : List (String × Entry)) (hat : d'.at? place = some (.folder entries)) :
    ∃ entries', d.at? place = some (.folder entries') :=
  (h.alike place _ (fun heq => hb entries (heq ▸ hat)) hat).folder

/-- A file was moved to a place, or a link that led to it. -/
structure Moved (b : Place) (content : List UInt8) (d d' : Disk) : Prop where
  inherits : Inherits b d d'
  stands : d'.at? b = some (.file content) ∨ ∃ t links q, d'.at? b = some (.link t) ∧
    Leads d true links (startOf t b.tail) (stepsOf t) q ∧ d.at? q = some (.file content)

namespace Moved

variable {b : Place} {content : List UInt8} {d d' : Disk}

theorem not_folder (h : Moved b content d d') (entries : List (String × Entry)) :
    d'.at? b ≠ some (.folder entries) := by
  rcases h.stands with hfile | ⟨t, _, _, ht, _⟩
  · simp [hfile]
  · simp [ht]

theorem link (h : Moved b content d d') (t : String) (ht : d'.at? b = some (.link t)) :
    ∃ links q, Leads d true links (startOf t b.tail) (stepsOf t) q ∧
      d.at? q = some (.file content) := by
  rcases h.stands with hfile | ⟨t', links, q, ht', hleads, hq⟩
  · rw [hfile] at ht
    cases ht
  · rw [ht, Option.some.injEq, Entry.link.injEq] at ht'
    rw [ht']
    exact ⟨links, q, hleads, hq⟩

/-- What was moved led to the file before, and no further. -/
theorem content_of_way (h : Moved b content d d') {t : String} (ht : d'.at? b = some (.link t))
    {links : Nat} {rest : List String} {target : Place}
    (hleads : Leads d true links (startOf t b.tail) (stepsOf t ++ rest) target) :
    d.at? target = some (.file content) := by
  rcases h.link t ht with ⟨_, q, hown, hq⟩
  by_cases hrest : rest = []
  · rw [hrest, List.append_nil] at hleads
    rw [hleads.unique _ q hown]
    exact hq
  · -- The way of the link is the beginning of this one, and ends at a file.
    rcases hleads.exists_of_append _ _ rfl hrest with ⟨middle, _, hfront, hback⟩
    rw [hfront.unique _ q hown] at hback
    exact absurd (hback.stop (by simp [hq])).1 hrest

/-- A way that ends at something was there before, or ends at the file. Where the moved link is
    followed, its own way is the beginning of what is left. -/
theorem past (h : Moved b content d d') {links : Nat} {place target : Place} {steps : List String}
    (hleads : Leads d' true links place steps target) (hsome : d'.at? target ≠ none)
    (hne : target ≠ b) :
    Leads d true links place steps target ∨ d.at? target = some (.file content) := by
  -- The way is followed from its end. It stays a way on the old disk until it comes by the link
  -- that was moved.
  induction hleads with
  | done links place => exact .inl (.done links place)
  | stay entries hat hn _ ih =>
      rcases h.inherits.folder h.not_folder _ entries hat with ⟨before, hbefore⟩
      exact (ih hsome hne).imp_left (.stay before hbefore hn)
  | up entries hat hn _ ih =>
      rcases h.inherits.folder h.not_folder _ entries hat with ⟨before, hbefore⟩
      exact (ih hsome hne).imp_left (.up before hbefore hn)
  | missing entries hat hn hnone => exact absurd hnone hsome
  | keep entries hat hn t hlink hkept => cases hkept
  | @follow links place n rest target entries hat hn t hlink ht hfollow _ ih =>
      rcases h.inherits.folder h.not_folder _ entries hat with ⟨before, hbefore⟩
      rcases ih hsome hne with hleads | hfile
      · by_cases hmoved : n :: place = b
        -- The link was moved here, so its way, seen on the old disk, leads to the file.
        · subst hmoved
          exact .inr (h.content_of_way hlink hleads)
        · have hlink' := (h.inherits.alike _ _ hmoved hlink).eq fun _ heq => by cases heq
          exact .inl (.follow before hbefore hn t hlink' ht hfollow hleads)
      · exact .inr hfile
  | @on links place n rest target entries hat hn e he hnot hrest ih =>
      rcases h.inherits.folder h.not_folder _ entries hat with ⟨before, hbefore⟩
      -- A file stands at that place, or a link, so no way goes on through it.
      have hmoved : n :: place ≠ b := by
        rintro rfl
        exact hne (hrest.stop h.not_folder).2
      refine (ih hsome hne).imp_left fun hleads => ?_
      have halike := h.inherits.alike _ _ hmoved he
      cases e with
      | folder inside =>
          rcases halike.folder with ⟨inside', hinside⟩
          exact .on before hbefore hn _ hinside (fun t heq => by cases heq) hleads
      | file old =>
          have hfile := halike.eq fun _ heq => by cases heq
          exact .on before hbefore hn _ hfile hnot hleads
      | link t => exact absurd rfl (hnot t)

/-- A way to a folder was there before. -/
theorem leads_folder (h : Moved b content d d') {links : Nat} {place target : Place}
    {steps : List String} (hleads : Leads d' true links place steps target)
    (entries : List (String × Entry)) (hat : d'.at? target = some (.folder entries)) :
    Leads d true links place steps target := by
  have hne : target ≠ b := fun heq => h.not_folder entries (heq ▸ hat)
  rcases h.past hleads (by simp [hat]) hne with hbefore | hfile
  · exact hbefore
  · rcases h.inherits.folder h.not_folder target entries hat with ⟨before, hbefore⟩
    rw [hfile] at hbefore
    cases hbefore

/-- A file at the end of the name to which something was moved is the one that was meant. -/
theorem content_of_leads {n : String} {links : Nat} {place : Place}
    (h : Moved (n :: place) content d d') (hn : Path.IsName n.toList) (target : Place)
    (hleads : Leads d' true links place [n] target) (found : List UInt8)
    (hfound : d'.at? target = some (.file found)) : found = content := by
  rcases hleads.cases_of_name hn with heq | ⟨_, t, _, ht, hmore⟩
  · rcases h.stands with hfile | ⟨t, _, _, ht, _⟩
    · rw [← heq, hfound, Option.some.injEq, Entry.file.injEq] at hfile
      exact hfile
    · rw [← heq, hfound] at ht
      cases ht
  · rcases h.link t ht with ⟨_, q, hown, hq⟩
    -- What ends at the place itself would be the link, which is no file.
    have hne : target ≠ n :: place := by
      rintro rfl
      rw [ht] at hfound
      cases hfound
    -- The way the link gives was there before, or comes by the link again. Both end at the
    -- file.
    have hfile : d.at? target = some (.file content) := by
      rcases h.past hmore (by simp [hfound]) hne with hbefore | hfile
      · rw [hbefore.unique _ q hown]
        exact hq
      · exact hfile
    have hsame := (h.inherits.alike target _ hne hfound).eq fun _ heq => by cases heq
    rw [hfile, Option.some.injEq, Entry.file.injEq] at hsame
    exact hsame.symm

end Moved

end Disk

end CodeAudit
