import CodeAudit.Proofs.Tracking.Scans
import Mathlib.Data.List.Forall2

/-!
# One Comparison

What a comparison of two lists of findings says about each of them.

The findings from before may be any list. A report is a file that can be edited by hand, so a
fingerprint may stand in it several times, under any states and times, and what is closed by now
may be there again. Of all that only the first finding with a fingerprint counts. `IsFirstAt` names
its place, and the result is told by such places: the time of a finding that persists is that of
the first one, and what is closed are the first ones that are gone, in the order of their places.

Findings are closed by going through the list with the fingerprints that are done with.
`gonePlaces` says the same without that list of fingerprints, and `forall₂_closeGone` ties the two
by an induction in which a finding moves from the list to those that are done with.

## Main definitions

* `IsFirstAt`: The first finding with its fingerprint, and its place.
* `Resumes`: What becomes of a finding of a scan.
* `Comparison`: What becomes of both lists.

## Theorems

* `findByFingerprint?_eq_some_iff`: What is found by a fingerprint is the first with it.
* `resumes_trackOne`: What becomes of a finding of a scan.
* `gonePlaces_cons`: The places in a list, from those in its rest.
* `forall₂_closeGone`: What is closed stands at the places of what is gone.
* `comparison_of_track`: A comparison loses nothing and makes nothing up.
-/

namespace CodeAudit

/-- A finding stands at a place of a list, and none before it has its fingerprint. -/
def IsFirstAt (fs : List Finding) (place : Nat) (p : Finding) : Prop :=
  fs[place]? = some p ∧ p.fingerprint ∉ (fs.take place).map Finding.fingerprint

/-- What becomes of a finding of a scan, compared with findings from before: all but its state and
    its times stays, and these depend on the first of them with its fingerprint, if there is one. -/
structure Resumes (previous : List Finding) (now : Int) (f e : Finding) : Prop where
  kept : e = { f with status := e.status, firstDetected := e.firstDetected,
                      lastDetected := .int now }
  persistent : f.fingerprint ∈ previous.map Finding.fingerprint →
    e.status = some .persistent ∧ ∃ place p, IsFirstAt previous place p ∧
      p.fingerprint = f.fingerprint ∧
      (p.firstDetected ≠ .null → e.firstDetected = p.firstDetected) ∧
      (p.firstDetected = .null → e.firstDetected = .int now)
  new : f.fingerprint ∉ previous.map Finding.fingerprint →
    e.status = some .new ∧ e.firstDetected = .int now

/-- What becomes of the findings of a scan, and of those from before that are gone. -/
structure Comparison (current previous : List Finding) (now : Int)
    (entries closed : List Finding) : Prop where
  resumed : List.Forall₂ (Resumes previous now) current entries
  gone : ∃ places : List Nat, places.Pairwise (· < ·) ∧
    (∀ place, place ∈ places ↔ ∃ p, IsFirstAt previous place p ∧
      p.fingerprint ∉ current.map Finding.fingerprint) ∧
    List.Forall₂ (fun place c => ∃ p, previous[place]? = some p ∧
      c = { p with status := some .closed, lastDetected := .int now }) places closed
  closedOnce : (closed.map Finding.fingerprint).Nodup
  closedGone : ∀ fingerprint, fingerprint ∈ closed.map Finding.fingerprint ↔
    fingerprint ∈ previous.map Finding.fingerprint ∧
      fingerprint ∉ current.map Finding.fingerprint

/-! ## Findings of the scan -/

/-- What is found by a fingerprint is the first finding with it. -/
theorem findByFingerprint?_eq_some_iff (fs : List Finding) (fingerprint : String) (p : Finding) :
    findByFingerprint? fs fingerprint = some p ↔
      ∃ place, IsFirstAt fs place p ∧ p.fingerprint = fingerprint := by
  rw [findByFingerprint?, List.find?_eq_some_iff_append, beq_iff_eq]
  constructor
  -- The search gives the list cut at what it finds, so the place is the length of the front.
  · rintro ⟨heq, before, after, rfl, hbefore⟩
    refine ⟨before.length, ⟨?_, ?_⟩, heq⟩
    · rw [List.getElem?_append_right (Nat.le_refl _), Nat.sub_self, List.getElem?_cons_zero]
    · rw [List.take_left, heq]
      intro hmem
      rcases List.mem_map.mp hmem with ⟨g, hg, hgeq⟩
      have hne := hbefore g hg
      rw [hgeq, beq_self_eq_true] at hne
      exact Bool.noConfusion hne
  · rintro ⟨place, ⟨hplace, hfirst⟩, heq⟩
    refine ⟨heq, fs.take place, fs.drop (place + 1), ?_, fun g hg => ?_⟩
    · rcases List.getElem?_eq_some_iff.mp hplace with ⟨hlt, hget⟩
      rw [← hget, List.getElem_cons_drop, List.take_append_drop]
    · rw [Bool.not_eq_true', beq_eq_false_iff_ne]
      intro hgeq
      exact hfirst (heq ▸ hgeq ▸ List.mem_map_of_mem hg)

/-- What becomes of a finding of a scan. -/
theorem resumes_trackOne (previous : List Finding) (now : Int) (f : Finding) :
    Resumes previous now f (trackOne previous now f) := by
  rw [trackOne]
  -- The tracker searches from the front, so what it finds is the first, as `Resumes` asks.
  cases hfound : findByFingerprint? previous f.fingerprint with
  | none =>
      have habsent := findByFingerprint?_none previous f.fingerprint hfound
      exact ⟨rfl, fun h => absurd h habsent, fun _ => ⟨rfl, rfl⟩⟩
  | some prior =>
      rcases (findByFingerprint?_eq_some_iff previous f.fingerprint prior).mp hfound with
        ⟨place, hfirst, heq⟩
      have hmem : f.fingerprint ∈ previous.map Finding.fingerprint :=
        heq ▸ List.mem_map_of_mem (List.mem_of_getElem? hfirst.1)
      refine ⟨rfl, fun _ => ⟨rfl, place, prior, hfirst, heq, fun hknown => ?_, fun hnull => ?_⟩,
        fun h => absurd hmem h⟩
      · show firstSeen prior now = prior.firstDetected
        unfold firstSeen
        split
        · rename_i hnull
          exact absurd hnull hknown
        · rfl
      · show firstSeen prior now = .int now
        rw [firstSeen, hnull]

theorem fingerprints_map_trackOne (current previous : List Finding) (now : Int) :
    (current.map (trackOne previous now)).map Finding.fingerprint =
      current.map Finding.fingerprint := by
  rw [List.map_map]
  refine List.map_congr_left fun f _ => ?_
  show (trackOne previous now f).fingerprint = f.fingerprint
  rw [(resumes_trackOne previous now f).kept]

/-- An entry of a finding of the scan is dated now, and is new or persists. -/
theorem Resumes.dated {previous : List Finding} {now : Int} {f e : Finding}
    (h : Resumes previous now f e) : e.lastDetected = .int now ∧
      (e.status = some .new ∨ e.status = some .persistent ∨ e.status = some .closed) := by
  refine ⟨by rw [h.kept], ?_⟩
  by_cases hmem : f.fingerprint ∈ previous.map Finding.fingerprint
  · exact Or.inr (Or.inl (h.persistent hmem).1)
  · exact Or.inl (h.new hmem).1

/-! ## Findings that are gone -/

/-- A fingerprint comes up for the first time at a place of a list, and is not done with. -/
def comesUpAt (done : List String) (fs : List Finding) (place : Nat) : Bool :=
  fs[place]?.any fun p =>
    !(done ++ (fs.take place).map Finding.fingerprint).contains p.fingerprint

/-- The places at which a fingerprint comes up that is not done with. -/
def gonePlaces (done : List String) (fs : List Finding) : List Nat :=
  (List.range fs.length).filter (comesUpAt done fs)

theorem comesUpAt_iff (done : List String) (fs : List Finding) (place : Nat) :
    comesUpAt done fs place = true ↔ ∃ p, IsFirstAt fs place p ∧ p.fingerprint ∉ done := by
  rw [comesUpAt, Option.any_eq_true]
  refine exists_congr fun p => ?_
  rw [IsFirstAt, Bool.not_eq_true', ← Bool.not_eq_true, List.contains_iff_mem, List.mem_append,
    not_or, and_assoc, and_comm (a := p.fingerprint ∉ done)]

/-- What is done with matters as a set only. -/
theorem comesUpAt_congr (done done' : List String) (fs : List Finding) (place : Nat)
    (h : ∀ fingerprint, fingerprint ∈ done ↔ fingerprint ∈ done') :
    comesUpAt done fs place = comesUpAt done' fs place := by
  rw [Bool.eq_iff_iff, comesUpAt_iff, comesUpAt_iff]
  exact exists_congr fun p => by rw [h]

theorem comesUpAt_zero (done : List String) (p : Finding) (rest : List Finding) :
    comesUpAt done (p :: rest) 0 = !done.contains p.fingerprint := by
  rw [comesUpAt, List.getElem?_cons_zero, Option.any_some, List.take_zero, List.map_nil,
    List.append_nil]

/-- Behind the first finding it is done with. -/
theorem comesUpAt_succ (done : List String) (p : Finding) (rest : List Finding) (place : Nat) :
    comesUpAt done (p :: rest) (place + 1) = comesUpAt (p.fingerprint :: done) rest place := by
  rw [comesUpAt, comesUpAt, List.getElem?_cons_succ, List.take_succ_cons, List.map_cons]
  simp only [List.contains_append, List.contains_cons, List.cons_append, Bool.or_left_comm]

theorem mem_gonePlaces (done : List String) (fs : List Finding) (place : Nat) :
    place ∈ gonePlaces done fs ↔ ∃ p, IsFirstAt fs place p ∧ p.fingerprint ∉ done := by
  rw [gonePlaces, List.mem_filter, List.mem_range, comesUpAt_iff]
  refine ⟨And.right, fun h => ⟨?_, h⟩⟩
  rcases h with ⟨p, hfirst, _⟩
  exact (List.getElem?_eq_some_iff.mp hfirst.1).1

/-- The places in a list are those in its rest, moved by one, and the first one unless it is done
    with. In the rest the first finding is done with in any case. -/
theorem gonePlaces_cons (done : List String) (p : Finding) (rest : List Finding) :
    gonePlaces done (p :: rest) =
      (if done.contains p.fingerprint then [] else [0]) ++
        (gonePlaces (p.fingerprint :: done) rest).map (· + 1) := by
  -- Behind the first finding the places are asked about with that finding among what is done
  -- with.
  have hrest : comesUpAt done (p :: rest) ∘ Nat.succ = comesUpAt (p.fingerprint :: done) rest :=
    funext fun place => comesUpAt_succ done p rest place
  rw [gonePlaces, gonePlaces, List.length_cons, List.range_succ_eq_map, List.filter_cons,
    comesUpAt_zero, List.filter_map, hrest]
  cases done.contains p.fingerprint with
  | true => rfl
  | false => rfl

/-- What is closed stands at the places of what is gone. -/
theorem forall₂_closeGone (now : Int) (previous : List Finding) : ∀ done : List String,
    List.Forall₂ (fun place c => ∃ p, previous[place]? = some p ∧
        c = { p with status := some .closed, lastDetected := .int now })
      (gonePlaces done previous) (closeGone now done previous) := by
  induction previous with
  | nil => exact fun _ => .nil
  | cons p rest ih =>
      intro done
      rw [gonePlaces_cons, closeGone]
      by_cases hdone : done.contains p.fingerprint = true
      -- The finding is done with already, so that putting it there once more changes no answer.
      · have hsame : ∀ fingerprint, fingerprint ∈ p.fingerprint :: done ↔ fingerprint ∈ done := by
          intro fingerprint
          rw [List.contains_iff_mem] at hdone
          rw [List.mem_cons]
          exact ⟨fun h => h.elim (fun heq => heq ▸ hdone) id, Or.inr⟩
        rw [if_pos hdone, if_pos hdone, List.nil_append, List.forall₂_map_left_iff,
          gonePlaces, List.filter_congr fun place _ => comesUpAt_congr _ done rest place hsame]
        exact ih done
      · rw [if_neg hdone, if_neg hdone, List.singleton_append]
        refine .cons ⟨p, rfl, rfl⟩ ?_
        rw [List.forall₂_map_left_iff]
        exact ih (p.fingerprint :: done)

/-- A comparison loses nothing and makes nothing up: there is one entry for each finding of the
    scan, in order, and behind them the first finding of each fingerprint that is gone. -/
theorem comparison_of_track (current previous : List Finding) (now : Int) :
    ∃ entries closed, track current previous now = entries ++ closed ∧
      Comparison current previous now entries closed ∧
      (∀ fingerprint, fingerprint ∈ (track current previous now).map Finding.fingerprint ↔
        fingerprint ∈ current.map Finding.fingerprint ∨
          fingerprint ∈ previous.map Finding.fingerprint) ∧
      ∀ e ∈ track current previous now, e.lastDetected = .int now ∧
        (e.status = some .new ∨ e.status = some .persistent ∨ e.status = some .closed) := by
  have hresumed : List.Forall₂ (Resumes previous now) current
      (current.map (trackOne previous now)) := by
    rw [List.forall₂_map_right_iff, List.forall₂_same]
    exact fun f _ => resumes_trackOne previous now f
  have hclosed := forall₂_closeGone now previous (current.map Finding.fingerprint)
  -- The places of what is gone are a filter of a range, so they ascend whatever is filtered
  -- out.
  refine ⟨_, _, rfl, ⟨hresumed, ⟨_, List.pairwise_lt_range.filter _, mem_gonePlaces _ _, hclosed⟩,
    nodup_closeGone now previous _, mem_closeGone now previous _⟩, fun fingerprint => ?_,
    fun e he => ?_⟩
  · rw [track, List.map_append, List.mem_append, mem_closeGone, fingerprints_map_trackOne]
    -- What is gone counts only where the scan has no finding, and the scan is asked first.
    by_cases hcurrent : fingerprint ∈ current.map Finding.fingerprint
    · exact ⟨fun _ => Or.inl hcurrent, fun _ => Or.inl hcurrent⟩
    · exact ⟨Or.imp_right And.left, Or.imp_right fun h => ⟨h, hcurrent⟩⟩
  · rw [track, List.mem_append] at he
    rcases he with hentry | hgone
    · rcases List.mem_map.mp hentry with ⟨f, _, rfl⟩
      exact (resumes_trackOne previous now f).dated
    · rcases exists_of_mem_closeGone now previous _ e hgone with ⟨p, _, rfl⟩
      exact ⟨rfl, Or.inr (Or.inr rfl)⟩

end CodeAudit
