import CodeAudit.Proofs.Disk.Paths
import CodeAudit.Proofs.Disk.Tree

/-!
# Ways Through a Disk

What the place a path leads to depends on.

A way is followed through folders and links, step by step, and with a number of links that may still
be followed. `Leads` lists what a step can be. It is an inductive relation and says the same as
following the steps, so that what is said of ways is said by one induction, with a case for each
kind of step, and links need no induction of their own.

Files only stop a way. So a way ends where it ended before when files have been written, moved or
removed: `SameWays` is what has to stay. And a way through a folder can be cut there. Following
the path of a name is following the path of its folder and looking the name up.

## Main definitions

* `Disk.SameWays`: Folders and links of one disk are there on another.
* `Disk.Leads`: Steps from a place lead to a place.

## Theorems

* `Disk.walk_iff_leads`: Steps are followed to where they lead.
* `Disk.Leads.of_sameWays`: A way leads to the same place on every disk with the same ways.
* `Disk.Leads.unique`: Steps lead to one place.
* `Disk.Leads.append`: Steps lead on from the folder at which a way ends.
* `Disk.Leads.exists_of_append`: A longer way leads through the end of a shorter one.
* `Disk.alike_setAt`: Setting or removing a name changes nothing elsewhere.
* `Disk.sameWays_setAt`: Setting or removing a file keeps the ways.
* `Disk.at?_setAt`: The folder of a file that is set has the new entries.
-/

namespace CodeAudit

namespace Disk

/-- Folders and links of one disk are there on another, and both have the same current
    folder. -/
structure SameWays (d d' : Disk) : Prop where
  cwd : d'.cwd = d.cwd
  ways : ∀ place x, d.at? place = some x → x.IsWay → Entry.Alike (some x) (d'.at? place)

theorem SameWays.folder {d d' : Disk} (h : SameWays d d') (place : Place)
    (entries : List (String × Entry)) (hat : d.at? place = some (.folder entries)) :
    ∃ entries', d'.at? place = some (.folder entries') :=
  (h.ways place _ hat trivial).folder

theorem SameWays.link {d d' : Disk} (h : SameWays d d') (place : Place) (target : String)
    (hat : d.at? place = some (.link target)) : d'.at? place = some (.link target) :=
  (h.ways place _ hat trivial).eq fun _ heq => nomatch heq

/-- What stands under a name of a folder stands at the place of that name. -/
theorem at?_cons (d : Disk) (place : Place) (entries : List (String × Entry))
    (h : d.at? place = some (.folder entries)) (n : String) :
    d.at? (n :: place) = entries.lookup n := by
  rw [at?] at h ⊢
  rw [List.reverse_cons, Entry.descend_append, h, Option.bind_some, Entry.descend_cons]
  cases entries.lookup n with
  | none => rfl
  | some e => rfl

/-! ## Steps -/

/-- Steps from a place lead to a place, and no more than a number of links are followed on the way.
    Every step starts from a folder. A name at the end may stand for nothing, and a link there is
    kept as it is unless it is to be followed. -/
inductive Leads (d : Disk) (followLast : Bool) : Nat → Place → List String → Place → Prop
  | done (links : Nat) (place : Place) : Leads d followLast links place [] place
  | stay {links : Nat} {place : Place} {n : String} {rest : List String} {target : Place}
      (entries : List (String × Entry)) (hat : d.at? place = some (.folder entries)) (hn : n = ".")
      (hrest : Leads d followLast links place rest target) :
      Leads d followLast links place (n :: rest) target
  | up {links : Nat} {place : Place} {n : String} {rest : List String} {target : Place}
      (entries : List (String × Entry)) (hat : d.at? place = some (.folder entries))
      (hn : n = "..") (hrest : Leads d followLast links place.tail rest target) :
      Leads d followLast links place (n :: rest) target
  | missing {links : Nat} {place : Place} {n : String} (entries : List (String × Entry))
      (hat : d.at? place = some (.folder entries)) (hn : n ≠ "." ∧ n ≠ "..")
      (hnone : d.at? (n :: place) = none) : Leads d followLast links place [n] (n :: place)
  | keep {links : Nat} {place : Place} {n : String} (entries : List (String × Entry))
      (hat : d.at? place = some (.folder entries)) (hn : n ≠ "." ∧ n ≠ "..") (t : String)
      (hlink : d.at? (n :: place) = some (.link t)) (hkept : followLast = false) :
      Leads d followLast links place [n] (n :: place)
  | follow {links : Nat} {place : Place} {n : String} {rest : List String} {target : Place}
      (entries : List (String × Entry)) (hat : d.at? place = some (.folder entries))
      (hn : n ≠ "." ∧ n ≠ "..") (t : String) (hlink : d.at? (n :: place) = some (.link t))
      (ht : t ≠ "") (hfollow : rest = [] → followLast = true)
      (hrest : Leads d followLast links (startOf t place) (stepsOf t ++ rest) target) :
      Leads d followLast (links + 1) place (n :: rest) target
  | on {links : Nat} {place : Place} {n : String} {rest : List String} {target : Place}
      (entries : List (String × Entry)) (hat : d.at? place = some (.folder entries))
      (hn : n ≠ "." ∧ n ≠ "..") (e : Entry) (he : d.at? (n :: place) = some e)
      (hlink : ∀ t, e ≠ .link t) (hrest : Leads d followLast links (n :: place) rest target) :
      Leads d followLast links place (n :: rest) target

section Steps

variable (d : Disk) (followLast : Bool) (links : Nat)

theorem walk_nil (place : Place) : d.walk followLast links place [] = .ok place := by
  cases links with
  | zero => rw [walk, walkSteps]
  | succ links => rw [walk, walkSteps]

theorem walk_cons (place : Place) (n : String) (rest : List String)
    (entries : List (String × Entry)) (h : d.at? place = some (.folder entries)) :
    d.walk followLast links place (n :: rest) =
      if n == "." then d.walk followLast links place rest
      else if n == ".." then d.walk followLast links place.tail rest
      else
        match d.at? (n :: place) with
        | none => if rest.isEmpty then .ok (n :: place) else .error .notFound
        | some (.link t) =>
          if rest.isEmpty && !followLast then .ok (n :: place)
          else match links with
            | 0 => .error .tooManyLinks
            | links + 1 =>
              if t.isEmpty then .error .notFound
              else d.walk followLast links (startOf t place) (stepsOf t ++ rest)
        | some _ => d.walk followLast links (n :: place) rest := by
  rw [at?_cons d place entries h n]
  cases links with
  | zero =>
      cases hlookup : entries.lookup n with
      | none => simp [walk, walkSteps, h, hlookup]
      | some e => cases e <;> simp [walk, walkSteps, h, hlookup]
  | succ links =>
      cases hlookup : entries.lookup n with
      | none => simp [walk, walkSteps, h, hlookup]
      | some e => cases e <;> simp [walk, walkSteps, h, hlookup]

/-- A step leads on from a folder only. -/
theorem folder_of_walk_cons (place : Place) (n : String) (rest : List String) (target : Place)
    (h : d.walk followLast links place (n :: rest) = .ok target) :
    ∃ entries, d.at? place = some (.folder entries) := by
  -- Whether links are left to follow matters only where a link stands, and by then the folder
  -- was looked at.
  have hsteps : ∃ detour, d.walkSteps followLast detour place (n :: rest) = .ok target := by
    cases links with
    | zero => exact ⟨_, by rw [walk] at h; exact h⟩
    | succ links => exact ⟨_, by rw [walk] at h; exact h⟩
  rcases hsteps with ⟨detour, hsteps⟩
  rw [walkSteps] at hsteps
  split at hsteps
  · rename_i entries heq
    exact ⟨entries, heq⟩
  · cases hsteps
  · cases hsteps

-- The branches of one step, each with what is left of the way when it is taken. Where a link is
-- followed there is one link less to follow, and elsewhere one step less to make.
theorem leads_of_walk (target : Place) :
    ∀ steps place, d.walk followLast links place steps = .ok target →
      Leads d followLast links place steps target := by
  induction links using Nat.strongRecOn with
  | ind links ihlinks =>
      intro steps
      induction steps with
      | nil =>
          intro place h
          rw [walk_nil, Except.ok.injEq] at h
          rw [h]
          exact .done links target
      | cons n rest ih =>
          intro place h
          rcases folder_of_walk_cons d followLast links place n rest target h with
            ⟨entries, hat⟩
          rw [walk_cons d followLast links place n rest entries hat] at h
          by_cases hstay : n = "."
          · rw [if_pos (beq_iff_eq.mpr hstay)] at h
            exact .stay entries hat hstay (ih place h)
          rw [if_neg (mt beq_iff_eq.mp hstay)] at h
          by_cases hup : n = ".."
          · rw [if_pos (beq_iff_eq.mpr hup)] at h
            exact .up entries hat hup (ih place.tail h)
          rw [if_neg (mt beq_iff_eq.mp hup)] at h
          cases hname : d.at? (n :: place) with
          | none =>
              rw [hname] at h
              by_cases hlast : rest.isEmpty = true
              · simp only [if_pos hlast, Except.ok.injEq] at h
                rw [List.isEmpty_iff.mp hlast, ← h]
                exact .missing entries hat ⟨hstay, hup⟩ hname
              · simp only [if_neg hlast, reduceCtorEq] at h
          | some e =>
              rw [hname] at h
              cases e with
              | file content =>
                  exact .on entries hat ⟨hstay, hup⟩ _ hname (fun t heq => by cases heq)
                    (ih (n :: place) h)
              | folder below =>
                  exact .on entries hat ⟨hstay, hup⟩ _ hname (fun t heq => by cases heq)
                    (ih (n :: place) h)
              | link t =>
                  by_cases hkept : (rest.isEmpty && !followLast) = true
                  · simp only [if_pos hkept, Except.ok.injEq] at h
                    rw [Bool.and_eq_true, List.isEmpty_iff, Bool.not_eq_true'] at hkept
                    rw [hkept.1, ← h]
                    exact .keep entries hat ⟨hstay, hup⟩ t hname hkept.2
                  · simp only [if_neg hkept] at h
                    rw [Bool.and_eq_true, List.isEmpty_iff, Bool.not_eq_true', not_and,
                      Bool.not_eq_false] at hkept
                    cases links with
                    | zero => cases h
                    | succ links =>
                        by_cases hempty : t.isEmpty = true
                        · simp only [if_pos hempty, reduceCtorEq] at h
                        · simp only [if_neg hempty] at h
                          have ht : t ≠ "" := mt String.isEmpty_iff.mpr hempty
                          exact .follow entries hat ⟨hstay, hup⟩ t hname ht hkept
                            (ihlinks links (Nat.lt_succ_self links) _ _ h)

variable {d followLast links}

theorem Leads.walk_eq {place target : Place} {steps : List String}
    (h : Leads d followLast links place steps target) :
    d.walk followLast links place steps = .ok target := by
  induction h with
  | done links place => exact walk_nil d followLast links place
  | stay entries hat hn _ ih =>
      rw [walk_cons d followLast _ _ _ _ entries hat, if_pos (beq_iff_eq.mpr hn), ih]
  | up entries hat hn _ ih =>
      have hstay : ¬ (".." == ".") = true := by
        decide
      subst hn
      rw [walk_cons d followLast _ _ _ _ entries hat, if_neg hstay, if_pos (beq_self_eq_true ".."),
        ih]
  | @missing links place n entries hat hn hnone =>
      rw [walk_cons d followLast _ _ _ _ entries hat, if_neg (mt beq_iff_eq.mp hn.1),
        if_neg (mt beq_iff_eq.mp hn.2), hnone]
      rfl
  | @keep links place n entries hat hn t hlink hkept =>
      rw [walk_cons d followLast _ _ _ _ entries hat, if_neg (mt beq_iff_eq.mp hn.1),
        if_neg (mt beq_iff_eq.mp hn.2), hlink, hkept]
      rfl
  | @follow links place n rest target entries hat hn t hlink ht hfollow _ ih =>
      have hgo : ¬ (rest.isEmpty && !followLast) = true := by
        rw [Bool.and_eq_true, List.isEmpty_iff, Bool.not_eq_true', not_and, Bool.not_eq_false]
        exact hfollow
      rw [walk_cons d followLast _ _ _ _ entries hat, if_neg (mt beq_iff_eq.mp hn.1),
        if_neg (mt beq_iff_eq.mp hn.2), hlink]
      simp only [if_neg hgo, if_neg (mt String.isEmpty_iff.mp ht), ih]
  | @on links place n rest target entries hat hn e he hlink _ ih =>
      rw [walk_cons d followLast _ _ _ _ entries hat, if_neg (mt beq_iff_eq.mp hn.1),
        if_neg (mt beq_iff_eq.mp hn.2), he]
      cases e with
      | file content => exact ih
      | folder below => exact ih
      | link t => exact absurd rfl (hlink t)

/-- Steps are followed to where they lead. -/
theorem walk_iff_leads {place target : Place} {steps : List String} :
    d.walk followLast links place steps = .ok target ↔
      Leads d followLast links place steps target :=
  ⟨leads_of_walk d followLast links target steps place, Leads.walk_eq⟩

end Steps

namespace Leads

variable {d : Disk} {followLast : Bool} {links : Nat} {place target : Place}

/-- A way with a step to make starts at a folder. -/
theorem folder {n : String} {rest : List String}
    (h : Leads d followLast links place (n :: rest) target) :
    ∃ entries, d.at? place = some (.folder entries) :=
  folder_of_walk_cons d followLast links place n rest target h.walk_eq

/-- No step leads on from what is no folder. -/
theorem stop {steps : List String} (h : Leads d followLast links place steps target)
    (hplace : ∀ entries, d.at? place ≠ some (.folder entries)) : steps = [] ∧ target = place := by
  cases steps with
  | nil =>
      cases h with
      | done => exact ⟨rfl, rfl⟩
  | cons n rest =>
      rcases h.folder with ⟨entries, hat⟩
      exact absurd hat (hplace entries)

/-- The last step of a way stops at a name, unless a link under it is followed. -/
theorem last (links : Nat) {n : String} (entries : List (String × Entry))
    (hat : d.at? place = some (.folder entries)) (hn : n ≠ "." ∧ n ≠ "..")
    (hlink : followLast = true → ∀ t, d.at? (n :: place) ≠ some (.link t)) :
    Leads d followLast links place [n] (n :: place) := by
  -- Of what can stand under the name, only a link may lead elsewhere.
  cases hentry : d.at? (n :: place) with
  | none => exact .missing entries hat hn hentry
  | some e =>
      cases e with
      | file content => exact .on entries hat hn _ hentry (fun t heq => by cases heq) (.done _ _)
      | folder below => exact .on entries hat hn _ hentry (fun t heq => by cases heq) (.done _ _)
      | link t =>
          cases followLast with
          | false => exact .keep entries hat hn t hentry rfl
          | true => exact absurd hentry (hlink rfl t)

/-- A way leads to the same place on every disk with the same ways. At its end there may be
    anything, or nothing, as long as it is not a link that would have to be followed. -/
theorem of_sameWays {d' : Disk} (hways : SameWays d d') {steps : List String}
    (h : Leads d followLast links place steps target)
    (htarget : followLast = true → ∀ t, d'.at? target ≠ some (.link t)) :
    Leads d' followLast links place steps target := by
  induction h with
  | done links place => exact .done links place
  | stay entries hat hn _ ih =>
      -- Where a step was made from a folder the other disk has one too, with other entries
      -- perhaps.
      rcases hways.folder _ entries hat with ⟨entries', hat'⟩
      exact .stay entries' hat' hn (ih htarget)
  | up entries hat hn _ ih =>
      rcases hways.folder _ entries hat with ⟨entries', hat'⟩
      exact .up entries' hat' hn (ih htarget)
  | missing entries hat hn hnone =>
      rcases hways.folder _ entries hat with ⟨entries', hat'⟩
      exact last _ entries' hat' hn htarget
  | keep entries hat hn t hlink hkept =>
      rcases hways.folder _ entries hat with ⟨entries', hat'⟩
      exact last _ entries' hat' hn htarget
  | follow entries hat hn t hlink ht hfollow _ ih =>
      rcases hways.folder _ entries hat with ⟨entries', hat'⟩
      exact .follow entries' hat' hn t (hways.link _ t hlink) ht hfollow (ih htarget)
  | @on links place n rest target entries hat hn e he hlink hrest ih =>
      rcases hways.folder _ entries hat with ⟨entries', hat'⟩
      cases e with
      | link t => exact absurd rfl (hlink t)
      | folder below =>
          rcases hways.folder _ below he with ⟨below', hbelow⟩
          exact .on entries' hat' hn _ hbelow (fun t heq => by cases heq) (ih htarget)
      | file content =>
          -- No step leads on from a file, so the way ends here, where the other disk may have
          -- anything.
          rcases hrest.stop (by simp [he]) with ⟨rfl, rfl⟩
          exact last _ entries' hat' hn htarget

/-- A link at the end of a way need not be kept if there is none. -/
theorem follow_last {steps : List String} (h : Leads d false links place steps target)
    (hlink : ∀ t, d.at? target ≠ some (.link t)) : Leads d true links place steps target := by
  induction h with
  | done links place => exact .done links place
  | stay entries hat hn _ ih => exact .stay entries hat hn (ih hlink)
  | up entries hat hn _ ih => exact .up entries hat hn (ih hlink)
  | missing entries hat hn hnone => exact .missing entries hat hn hnone
  | keep entries hat hn t ht hkept => exact absurd ht (hlink t)
  | follow entries hat hn t ht hne hfollow _ ih =>
      exact .follow entries hat hn t ht hne (fun _ => rfl) (ih hlink)
  | on entries hat hn e he hnot _ ih => exact .on entries hat hn e he hnot (ih hlink)

/-- Steps lead to one place, however many links may be followed. -/
theorem unique {steps : List String} (h : Leads d followLast links place steps target) :
    ∀ links' other, Leads d followLast links' place steps other → target = other := by
  -- What is at the name decides which step is made, so all but one are ruled out.
  induction h with
  | done links place =>
      intro links' other h'
      cases h' with
      | done => rfl
  | stay entries hat hn _ ih =>
      intro links' other h'
      cases h' with
      | stay _ _ _ hrest => exact ih _ other hrest
      | _ => simp_all
  | up entries hat hn _ ih =>
      intro links' other h'
      cases h' with
      | up _ _ _ hrest => exact ih _ other hrest
      | _ => simp_all
  | missing entries hat hn hnone =>
      intro links' other h'
      cases h' with
      | missing => rfl
      | _ => simp_all
  | keep entries hat hn t hlink hkept =>
      intro links' other h'
      cases h' with
      | keep => rfl
      | _ => simp_all
  | follow entries hat hn t hlink ht hfollow _ ih =>
      intro links' other h'
      cases h' with
      | follow _ _ _ t' hlink' _ _ hrest =>
          rw [hlink, Option.some.injEq, Entry.link.injEq] at hlink'
          subst hlink'
          exact ih _ other hrest
      | _ => simp_all
  | on entries hat hn e he hlink _ ih =>
      intro links' other h'
      cases h' with
      | on _ _ _ _ _ _ hrest => exact ih _ other hrest
      | keep _ _ _ t ht _ => exact absurd (Option.some.inj (he.symm.trans ht)) (hlink t)
      | follow _ _ _ t ht _ _ _ => exact absurd (Option.some.inj (he.symm.trans ht)) (hlink t)
      | _ => simp_all

/-! ## Steps behind a way -/

/-- Steps lead on from the folder at which a way ends. The shorter way follows a link at its end and
    the longer one goes through it, so the two agree up to the folder. -/
theorem append {steps back : List String} {middle : Place}
    (h : Leads d true links place steps middle) (inside : List (String × Entry))
    (hat : d.at? middle = some (.folder inside)) (hne : back ≠ [])
    (hback : ∀ links, Leads d followLast links middle back target) :
    Leads d followLast links place (steps ++ back) target := by
  induction h with
  | done links place => exact hback links
  | stay entries hat' hn _ ih => exact .stay entries hat' hn (ih hat hback)
  | up entries hat' hn _ ih => exact .up entries hat' hn (ih hat hback)
  | missing entries hat' hn hnone =>
      rw [hat] at hnone
      cases hnone
  | keep entries hat' hn t hlink hkept => cases hkept
  | follow entries hat' hn t hlink ht hfollow _ ih =>
      -- The steps of the link come before what is left of the way, and so before the steps
      -- behind it.
      have hrest := ih hat hback
      rw [List.append_assoc] at hrest
      exact .follow entries hat' hn t hlink ht
        (fun hnil => absurd (List.append_eq_nil_iff.mp hnil).2 hne) hrest
  | on entries hat' hn e he hlink _ ih => exact .on entries hat' hn e he hlink (ih hat hback)

/-- A longer way leads through the end of a shorter one, where links are followed. -/
theorem exists_of_append {steps : List String}
    (h : Leads d followLast links place steps target) :
    ∀ front back, steps = front ++ back → back ≠ [] →
      ∃ middle links', Leads d true links place front middle ∧
        Leads d followLast links' middle back target := by
  induction h with
  | done links place =>
      intro front back heq hback
      exact absurd (List.append_eq_nil_iff.mp heq.symm).2 hback
  | stay entries hat hn hrest ih =>
      intro front back heq hback
      -- The shorter way ends before this step, or makes it too.
      rcases List.cons_eq_append_iff.mp heq with ⟨rfl, rfl⟩ | ⟨front, rfl, rfl⟩
      · exact ⟨_, _, .done _ _, .stay entries hat hn hrest⟩
      · rcases ih front back rfl hback with ⟨middle, links', hfront, hmore⟩
        exact ⟨middle, links', .stay entries hat hn hfront, hmore⟩
  | up entries hat hn hrest ih =>
      intro front back heq hback
      rcases List.cons_eq_append_iff.mp heq with ⟨rfl, rfl⟩ | ⟨front, rfl, rfl⟩
      · exact ⟨_, _, .done _ _, .up entries hat hn hrest⟩
      · rcases ih front back rfl hback with ⟨middle, links', hfront, hmore⟩
        exact ⟨middle, links', .up entries hat hn hfront, hmore⟩
  | @missing links place n entries hat hn hnone =>
      intro front back heq hback
      rcases List.cons_eq_append_iff.mp heq with ⟨rfl, rfl⟩ | ⟨front, rfl, hnil⟩
      · exact ⟨_, links, .done _ _, .missing entries hat hn hnone⟩
      · exact absurd (List.append_eq_nil_iff.mp hnil.symm).2 hback
  | @keep links place n entries hat hn t hlink hkept =>
      intro front back heq hback
      rcases List.cons_eq_append_iff.mp heq with ⟨rfl, rfl⟩ | ⟨front, rfl, hnil⟩
      · exact ⟨_, links, .done _ _, .keep entries hat hn t hlink hkept⟩
      · exact absurd (List.append_eq_nil_iff.mp hnil.symm).2 hback
  | follow entries hat hn t hlink ht hfollow hrest ih =>
      intro front back heq hback
      rcases List.cons_eq_append_iff.mp heq with ⟨rfl, rfl⟩ | ⟨front, rfl, rfl⟩
      · exact ⟨_, _, .done _ _, .follow entries hat hn t hlink ht hfollow hrest⟩
      · -- The shorter way takes the same detour, with less behind it.
        rcases ih (stepsOf t ++ front) back (List.append_assoc _ _ _).symm hback with
          ⟨middle, links', hfront, hmore⟩
        exact ⟨middle, links', .follow entries hat hn t hlink ht (fun _ => rfl) hfront, hmore⟩
  | on entries hat hn e he hlink hrest ih =>
      intro front back heq hback
      rcases List.cons_eq_append_iff.mp heq with ⟨rfl, rfl⟩ | ⟨front, rfl, rfl⟩
      · exact ⟨_, _, .done _ _, .on entries hat hn e he hlink hrest⟩
      · rcases ih front back rfl hback with ⟨middle, links', hfront, hmore⟩
        exact ⟨middle, links', .on entries hat hn e he hlink hfront, hmore⟩

end Leads

/-! ## Changes -/

/-- Setting or removing a name changes nothing elsewhere. -/
theorem alike_setAt (d : Disk) (place : Place) (entries : List (String × Entry))
    (h : d.at? place = some (.folder entries)) (n : String) (e : Option Entry) (other : Place)
    (hother : ¬ n :: place <:+ other) :
    Entry.Alike (d.at? other) ((d.setAt (n :: place) e).at? other) := by
  rw [at?, at?, setAt, List.reverse_cons]
  refine Entry.descend_update_alike e n place.reverse d.root entries h other.reverse ?_
  rwa [← List.reverse_cons, List.reverse_prefix]

/-- Nothing stands below what is no folder. -/
theorem at?_below_of_ne (d : Disk) (place : Place)
    (hplace : ∀ entries, d.at? place ≠ some (.folder entries)) (other : Place)
    (h : place <:+ other) (hne : other ≠ place) : d.at? other = none := by
  rcases h with ⟨below, heq⟩
  have hbelow : below.reverse ≠ [] := by
    intro hnil
    rw [List.reverse_eq_nil_iff] at hnil
    exact hne (by rw [← heq, hnil, List.nil_append])
  rw [← heq, at?, List.reverse_append, Entry.descend_append]
  -- Nothing, a file and a link have one thing in common: there is no name below them.
  cases hat : d.at? place with
  | none =>
      rw [at?] at hat
      rw [hat, Option.bind_none]
  | some x =>
      have hfolder : ∀ entries, x ≠ .folder entries := fun entries heq =>
        hplace entries (by rw [hat, heq])
      rw [at?] at hat
      rw [hat, Option.bind_some]
      cases hsteps : below.reverse with
      | nil => exact absurd hsteps hbelow
      | cons m rest =>
          cases x with
          | file content => rfl
          | folder inside => exact absurd rfl (hfolder inside)
          | link target => rfl

/-- Nothing stands below what is no way. -/
theorem at?_below (d : Disk) (place : Place) (hplace : ∀ x, d.at? place = some x → ¬ x.IsWay)
    (other : Place) (h : place <:+ other) (hne : other ≠ place) : d.at? other = none :=
  at?_below_of_ne d place (fun _ hat => hplace _ hat trivial) other h hne

/-- Setting or removing what stands under a name keeps the ways, if that is no way itself. -/
theorem sameWays_setAt (d : Disk) (place : Place) (entries : List (String × Entry))
    (h : d.at? place = some (.folder entries)) (n : String)
    (hn : ∀ x, entries.lookup n = some x → ¬ x.IsWay) (e : Option Entry) :
    SameWays d (d.setAt (n :: place) e) := by
  -- The current folder is no part of the tree, so it is the same without further ado.
  refine ⟨rfl, fun other x hx hway => ?_⟩
  rw [← at?_cons d place entries h n] at hn
  rw [← hx]
  -- What is at the name is no way, and nothing stands below it. Everything else is as it was.
  refine alike_setAt d place entries h n e other fun hsuffix => ?_
  by_cases heq : other = n :: place
  · exact hn x (heq ▸ hx) hway
  · rw [at?_below d (n :: place) hn other hsuffix heq] at hx
    exact nomatch hx

/-- The folder of a name that is set has the new entries. -/
theorem at?_setAt (d : Disk) (place : Place) (entries : List (String × Entry))
    (h : d.at? place = some (.folder entries)) (n : String) (e : Option Entry) :
    (d.setAt (n :: place) e).at? place = some (.folder (Entry.setName n e entries)) := by
  rw [at?, setAt, List.reverse_cons]
  exact Entry.descend_update_self e n place.reverse d.root entries h

end Disk

end CodeAudit
