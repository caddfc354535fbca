import CodeAudit.Pattern.Match

/-!
# Spans of Occurrences

Where the occurrences of a pattern can lie.

A tree is matched from a place on, and what it gives comes from the rest of the pattern, tried
where the tree has stopped. `Leads` says this about one result: the rest was tried at a place that
is not before the one where the tree began, and not behind the end of the text. Every kind of node
keeps it, whatever the rest is, so a repetition keeps it however often it goes round, and looking
back keeps it too, since that moves nothing.

So an occurrence starts where the search has come to, ends no earlier, and lies within the text.

## Main definitions

* `Leads`: A result comes from the rest, tried further on.
* `Step.IsForward`: A step never leads back.
* `Span.Within`: A span lies in a text behind a place.

## Theorems

* `forward_runLoop`: A repetition of a step that never leads back.
* `forward_run`: The matching of a tree never leads back.
* `Regex.within_of_findAll`: The occurrences of a pattern lie in the text.
-/

namespace CodeAudit

namespace Pattern

/-- What comes out of trying a rest comes from a place that is not before a given one, and not
    behind the end of the text. -/
def Leads (text : Subject) (i : Nat) (rest : Rest) (out : Outcome) : Prop :=
  ∀ r, out = some r → ∃ j marks, i ≤ j ∧ j ≤ text.size ∧ rest j marks = some r

/-- A step never leads back. -/
def Step.IsForward (text : Subject) (step : Step) : Prop :=
  ∀ i marks rest, i ≤ text.size → Leads text i rest (step i marks rest)

namespace Leads

variable {text : Subject} {i j : Nat} {rest : Rest}

theorem nowhere : Leads text i rest none :=
  fun _ h => nomatch h

theorem here (h : i ≤ text.size) (marks : Marks) : Leads text i rest (rest i marks) :=
  fun _ hr => ⟨i, marks, Nat.le_refl i, h, hr⟩

theorem there (hij : i ≤ j) (h : j ≤ text.size) (marks : Marks) :
    Leads text i rest (rest j marks) :=
  fun _ hr => ⟨j, marks, hij, h, hr⟩

theorem mono {out : Outcome} (h : Leads text j rest out) (hij : i ≤ j) :
    Leads text i rest out := by
  intro r hr
  rcases h r hr with ⟨k, marks, hk, hsize, hrest⟩
  exact ⟨k, marks, Nat.le_trans hij hk, hsize, hrest⟩

/-- A rest that itself leads on to another rest. -/
theorem trans {more : Rest} {out : Outcome} (h : Leads text i more out)
    (hmore : ∀ j marks, i ≤ j → j ≤ text.size → Leads text j rest (more j marks)) :
    Leads text i rest out := by
  intro r hr
  rcases h r hr with ⟨j, marks, hij, hsize, hj⟩
  exact ((hmore j marks hij hsize).mono hij) r hj

/-- The first of two attempts that succeeds. -/
theorem orElse {first second : Outcome} :
    Leads text i rest first → Leads text i rest second →
      Leads text i rest (match first with
        | some r => some r
        | none => second) := by
  intro hfirst hsecond
  cases first with
  | some r => exact hfirst
  | none => exact hsecond

end Leads

/-! ## Repetitions of a character -/

section Characters

variable (text : Subject) (folding : Folding) (test : CharTest)

theorem lt_size_of_passes (i : Nat) (h : passes text folding test i = true) : i < text.size := by
  refine Classical.byContradiction fun hnot => ?_
  rw [passes, Array.getElem?_eq_none (Nat.le_of_not_lt hnot)] at h
  exact nomatch h

/-- Characters are counted up to the bound. -/
theorem countPassing_le (fuel : Nat) :
    ∀ i n, countPassing text folding test fuel i n ≤ n + fuel := by
  induction fuel with
  | zero => exact fun i n => Nat.le_refl n
  | succ fuel ih =>
      intro i n
      rw [countPassing]
      split
      -- One more character has been counted, with one less to go.
      · have hle := ih (i + 1) (n + 1)
        omega
      · omega

variable (rest : Rest) (marks : Marks)

theorem leads_tryDown (least : Nat) (n : Nat) (h : least + n ≤ text.size) :
    Leads text least rest (tryDown rest marks least n) := by
  induction n with
  | zero => exact .here h marks
  | succ n ih =>
      rw [tryDown]
      exact .orElse (.there (Nat.le_add_right least (n + 1)) h marks) (ih (by omega))

theorem leads_tryUp (fuel : Nat) :
    ∀ i, i ≤ text.size → Leads text i rest (tryUp text folding test rest marks fuel i) := by
  induction fuel with
  | zero => exact fun i hi => .here hi marks
  | succ fuel ih =>
      intro i hi
      rw [tryUp]
      refine .orElse (.here hi marks) ?_
      split
      -- The next character is passed over only if it is there, so the place behind it is in the
      -- text.
      · rename_i hpasses
        have hlt := lt_size_of_passes text folding test i hpasses
        exact (ih (i + 1) hlt).mono (Nat.le_succ i)
      · exact .nowhere

end Characters

/-- The bound of a repetition is never more than the room that is left. -/
theorem exists_bound_runChars (text : Subject) (folding : Folding) (test : CharTest)
    (greed : Greed) (least : Nat) (most : Option Nat) (i : Nat) (marks : Marks) (rest : Rest) :
    ∃ bound ≤ text.size - i, runChars text folding test greed least most i marks rest =
      match greed with
      | .greedy =>
        let n := countPassing text folding test bound i 0
        if n < least then none else tryDown rest marks (i + least) (n - least)
      | .lazy =>
        if text.size - i < least then none
        else if countPassing text folding test least i 0 < least then none
        else tryUp text folding test rest marks (bound - least) (i + least)
      | .possessive =>
        let n := countPassing text folding test bound i 0
        if n < least then none else rest (i + n) marks := by
  cases most with
  | some m => exact ⟨min m (text.size - i), Nat.min_le_right m _, rfl⟩
  | none => exact ⟨text.size - i, Nat.le_refl _, rfl⟩

theorem forward_runChars (text : Subject) (folding : Folding) (test : CharTest) (greed : Greed)
    (least : Nat) (most : Option Nat) :
    Step.IsForward text (runChars text folding test greed least most) := by
  intro i marks rest hi
  rcases exists_bound_runChars text folding test greed least most i marks rest with
    ⟨bound, hle, heq⟩
  -- The count is bounded by the room, so every place that is tried is in the text.
  have hcount := countPassing_le text folding test bound i 0
  rw [heq]
  cases greed with
  | greedy =>
      dsimp only
      split
      · exact .nowhere
      · exact (leads_tryDown text rest marks (i + least) _ (by omega)).mono (Nat.le_add_right _ _)
  | lazy =>
      dsimp only
      split
      · exact .nowhere
      · split
        · exact .nowhere
        · exact (leads_tryUp text folding test rest marks _ (i + least) (by omega)).mono
            (Nat.le_add_right _ _)
  | possessive =>
      dsimp only
      split
      · exact .nowhere
      · exact .there (Nat.le_add_right _ _) (by omega) marks

/-! ## Repetitions of a step -/

section Loops

variable {text : Subject} {step : Step} (hstep : Step.IsForward text step)

include hstep

theorem leads_runRequired (rest : Rest) (n : Nat) :
    ∀ i marks, i ≤ text.size → Leads text i rest (runRequired step rest n i marks) := by
  induction n with
  | zero => exact fun i marks hi => .here hi marks
  | succ n ih =>
      intro i marks hi
      rw [runRequired]
      -- What follows an iteration are the other ones, which lead to the rest by induction.
      exact (hstep i marks _ hi).trans fun j marks _ hj => ih j marks hj

theorem leads_runGreedy (rest : Rest) (room : Option Nat) (fuel : Nat) :
    ∀ count last i marks, i ≤ text.size →
      Leads text i rest (runGreedy step rest room fuel count last i marks) := by
  induction fuel with
  | zero => exact fun _ _ i marks hi => .here hi marks
  | succ fuel ih =>
      intro count last i marks hi
      rw [runGreedy]
      split
      · refine .orElse ?_ (.here hi marks)
        exact (hstep i marks _ hi).trans fun j marks _ hj => ih (count + 1) (some i) j marks hj
      · exact .here hi marks

theorem leads_runLazy (rest : Rest) (room : Option Nat) (fuel : Nat) :
    ∀ count last i marks, i ≤ text.size →
      Leads text i rest (runLazy step rest room fuel count last i marks) := by
  induction fuel with
  | zero => exact fun _ _ i marks hi => .here hi marks
  | succ fuel ih =>
      intro count last i marks hi
      rw [runLazy]
      refine .orElse (.here hi marks) ?_
      split
      · exact (hstep i marks _ hi).trans fun j marks _ hj => ih (count + 1) (some i) j marks hj
      · exact .nowhere

/-- The first way to match a tree ends where the tree has led to. -/
theorem le_of_firstMatch (i : Nat) (marks : Marks) (hi : i ≤ text.size) (j : Nat) (marks' : Marks)
    (h : firstMatch step i marks = some (j, marks')) : i ≤ j ∧ j ≤ text.size := by
  rcases hstep i marks _ hi _ h with ⟨k, _, hk, hsize, heq⟩
  rw [Option.some.injEq, Prod.mk.injEq] at heq
  exact heq.1 ▸ ⟨hk, hsize⟩

theorem le_of_takeRequired (n : Nat) :
    ∀ i marks, i ≤ text.size → ∀ j marks', takeRequired step n i marks = some (j, marks') →
      i ≤ j ∧ j ≤ text.size := by
  induction n with
  | zero =>
      intro i marks hi j marks' h
      rw [takeRequired, Option.some.injEq, Prod.mk.injEq] at h
      exact h.1 ▸ ⟨Nat.le_refl i, hi⟩
  | succ n ih =>
      intro i marks hi j marks' h
      rw [takeRequired] at h
      split at h
      · rename_i k marks'' hfirst
        -- The first iteration ends in the text, so the others begin there.
        have hk := le_of_firstMatch hstep i marks hi k marks'' hfirst
        have hj := ih k marks'' hk.2 j marks' h
        exact ⟨Nat.le_trans hk.1 hj.1, hj.2⟩
      · exact nomatch h

theorem le_takeAll (room : Option Nat) (fuel : Nat) :
    ∀ count i marks, i ≤ text.size →
      i ≤ (takeAll step room fuel count i marks).1 ∧
        (takeAll step room fuel count i marks).1 ≤ text.size := by
  induction fuel with
  | zero => exact fun _ i _ hi => ⟨Nat.le_refl i, hi⟩
  | succ fuel ih =>
      intro count i marks hi
      rw [takeAll]
      split
      -- The loop ends for lack of iterations, for one without length, or because none is
      -- allowed.
      · split
        · rename_i j marks' hfirst
          have hj := le_of_firstMatch hstep i marks hi j marks' hfirst
          split
          · exact hj
          · have hmore := ih (count + 1) j marks' hj.2
            exact ⟨Nat.le_trans hj.1 hmore.1, hmore.2⟩
        · exact ⟨Nat.le_refl i, hi⟩
      · exact ⟨Nat.le_refl i, hi⟩

/-- A repetition of a step that never leads back does not lead back either. -/
theorem forward_runLoop (size : Nat) (greed : Greed) (least : Nat) (most : Option Nat) :
    Step.IsForward text (runLoop size step greed least most) := by
  intro i marks rest hi
  unfold runLoop
  cases greed with
  | greedy =>
      exact (leads_runRequired hstep _ least i marks hi).trans fun j marks _ hj =>
        leads_runGreedy hstep rest _ _ 0 none j marks hj
  | lazy =>
      exact (leads_runRequired hstep _ least i marks hi).trans fun j marks _ hj =>
        leads_runLazy hstep rest _ _ 0 none j marks hj
  | possessive =>
      dsimp only
      split
      · rename_i j marks' hrequired
        have hj := le_of_takeRequired hstep least i marks hi j marks' hrequired
        have hall := le_takeAll hstep (most.map (· - least)) (size + 2) 0 j marks' hj.2
        exact .there (Nat.le_trans hj.1 hall.1) hall.2 _
      · exact .nowhere

end Loops

/-! ## Trees -/

mutual

/-- The matching of a tree never leads back. -/
theorem forward_run (text : Subject) (n : Node) : Step.IsForward text (n.run text) := by
  intro i marks rest hi
  cases n with
  | one folding test =>
      rw [Node.run]
      split
      · rename_i hpasses
        exact .there (Nat.le_succ i) (lt_size_of_passes text folding test i hpasses) marks
      · exact .nowhere
  | anchor a =>
      rw [Node.run]
      split
      · exact .here hi marks
      · exact .nowhere
  | sequence items =>
      rw [Node.run]
      exact forward_runSequence text items i marks rest hi
  | choice options =>
      rw [Node.run]
      exact forward_runChoice text options i marks rest hi
  | group index body =>
      rw [Node.run]
      -- Both ends of a group are noted in the marks, which `Leads` leaves open.
      exact (forward_run text body i _ _ hi).trans fun j _ _ hj => .here hj _
  | again folding index =>
      rw [Node.run]
      split
      · split
        · rename_i hrepeats
          rw [Bool.and_eq_true, decide_eq_true_iff] at hrepeats
          exact .there (Nat.le_add_right i _) hrepeats.1 marks
        · exact .nowhere
      · exact .nowhere
  | look behind negated body =>
      -- Whatever is found ahead or behind, the rest is tried here.
      rw [Node.run]
      split
      · split
        · exact .nowhere
        · exact .here hi _
      · split
        · exact .here hi marks
        · exact .nowhere
  | atomic body =>
      rw [Node.run]
      split
      · rename_i j marks' hfirst
        have hj := le_of_firstMatch (forward_run text body) i marks hi j marks' hfirst
        exact .there hj.1 hj.2 marks'
      · exact .nowhere
  | ifGroup index yes no =>
      rw [Node.run]
      split
      · exact forward_run text yes i marks rest hi
      · exact forward_run text no i marks rest hi
  | loop greed least most body =>
      -- A repetition of a character is matched by counting, and all others by the loop.
      have hloop := forward_runLoop (forward_run text body) text.size greed least most i marks rest
      cases body with
      | one folding test =>
          rw [Node.run]
          exact forward_runChars text folding test greed least most i marks rest hi
      | _ =>
          rw [Node.run]
          · exact hloop hi
          · exact fun _ _ h => nomatch h

theorem forward_runSequence (text : Subject) (items : List Node) :
    Step.IsForward text (runSequence text items) := by
  intro i marks rest hi
  cases items with
  | nil =>
      rw [runSequence]
      exact .here hi marks
  | cons n more =>
      rw [runSequence]
      exact (forward_run text n i marks _ hi).trans fun j marks _ hj =>
        forward_runSequence text more j marks rest hj

theorem forward_runChoice (text : Subject) (options : List Node) :
    Step.IsForward text (runChoice text options) := by
  intro i marks rest hi
  cases options with
  | nil =>
      rw [runChoice]
      exact .nowhere
  | cons n more =>
      rw [runChoice]
      exact .orElse (forward_run text n i marks rest hi)
        (forward_runChoice text more i marks rest hi)

end

/-! ## Occurrences -/

/-- A span lies in a text, and starts at a place or behind it. -/
structure Span.Within (text : Subject) (i : Nat) (s : Span) : Prop where
  start : i ≤ s.start
  order : s.start ≤ s.stop
  stop : s.stop ≤ text.size

namespace Regex

variable (r : Regex) (text : Subject)

theorem le_of_matchAt (mayBeEmpty : Bool) (i : Nat) (hi : i ≤ text.size) (j : Nat)
    (h : r.matchAt text mayBeEmpty i = some j) : i ≤ j ∧ j ≤ text.size := by
  rw [matchAt, Option.map_eq_some_iff] at h
  rcases h with ⟨out, hrun, hj⟩
  -- The rest of a whole pattern keeps the place that it is tried at.
  rcases forward_run text r.tree i [] _ hi out hrun with ⟨k, marks, hk, hsize, hend⟩
  dsimp only at hend
  split at hend
  · exact nomatch hend
  · rw [← hj, ← Option.some.inj hend]
    exact ⟨hk, hsize⟩

theorem within_of_findFrom (fuel : Nat) :
    ∀ mayBeEmpty i, i ≤ text.size → ∀ s, r.findFrom text fuel mayBeEmpty i = some s →
      s.Within text i := by
  induction fuel with
  | zero => exact fun _ _ _ _ h => nomatch h
  | succ fuel ih =>
      intro mayBeEmpty i hi s h
      rw [findFrom] at h
      split at h
      · rename_i j hmatch
        have hj := r.le_of_matchAt text mayBeEmpty i hi j hmatch
        rw [← Option.some.inj h]
        exact ⟨Nat.le_refl i, hj.1, hj.2⟩
      · split at h
        · rename_i hlt
          have hs := ih true (i + 1) hlt s h
          exact ⟨Nat.le_of_succ_le hs.start, hs.order, hs.stop⟩
        · exact nomatch h

theorem within_of_findAllFrom (fuel : Nat) :
    ∀ mayBeEmpty i, i ≤ text.size → ∀ s ∈ r.findAllFrom text fuel mayBeEmpty i,
      s.Within text i := by
  induction fuel with
  | zero => exact fun _ _ _ s hs => absurd hs List.not_mem_nil
  | succ fuel ih =>
      intro mayBeEmpty i hi s hs
      rw [findAllFrom] at hs
      split at hs
      · rename_i first hfirst
        have hwithin := r.within_of_findFrom text _ mayBeEmpty i hi first hfirst
        rcases List.mem_cons.mp hs with heq | hmore
        · exact heq ▸ hwithin
        · -- The search goes on where the first occurrence ends.
          have hnext := ih _ first.stop hwithin.stop s hmore
          exact ⟨Nat.le_trans hwithin.start (Nat.le_trans hwithin.order hnext.start),
            hnext.order, hnext.stop⟩
      · exact absurd hs List.not_mem_nil

/-- The occurrences of a pattern lie in the text. -/
theorem within_of_findAll (s : Span) (h : s ∈ r.findAll text) : s.Within text 0 :=
  r.within_of_findAllFrom text _ true 0 (Nat.zero_le _) s h

end Regex

end Pattern

end CodeAudit
