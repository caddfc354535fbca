import CodeAudit.Proofs.Pattern.Spans
import Mathlib.Data.List.Forall2
import Mathlib.Data.List.TakeWhile

/-!
# The Pieces that Trees Take

Which texts a tree matches, whatever comes behind it.

The rest of a pattern is handed to a tree as a continuation, and the tree tries it behind each piece
that it can take, in some order. Whether the whole succeeds does not depend on the order: it does
exactly if the rest succeeds behind some piece. `Step.Takes` says so for a kind of pieces. It is
kept by sequences, by options and by repetitions of a character, so that a tree made of these takes
what it is meant to take.

A place is given by the text before it, and so by its length.

## Main definitions

* `Step.Takes`: The pieces that a step takes are those of a kind.

## Theorems

* `takes_one`, `takes_many`: One character and any number of them.
* `takes_cons`, `takes_sequence`: Pieces one behind the other.
* `takes_option`: At most one piece.
-/

namespace CodeAudit

namespace Pattern

/-- A step goes on from a place exactly if some piece of a kind is behind it, and the rest can be
    matched behind that piece. -/
def Step.Takes (text : List Char) (step : Step) (kind : List Char → Prop) : Prop :=
  ∀ front back marks rest, text = front ++ back →
    ((step front.length marks rest).isSome ↔
      ∃ piece left, back = piece ++ left ∧ kind piece ∧
        (rest (front ++ piece).length marks).isSome)

variable {text : List Char}

theorem Step.Takes.congr {step : Step} {kind kind' : List Char → Prop} (h : step.Takes text kind)
    (hkind : ∀ piece, kind piece ↔ kind' piece) : step.Takes text kind' := by
  intro front back marks rest htext
  simp only [h front back marks rest htext, hkind]

/-! ## Characters -/

section

variable (test : CharTest)

theorem passes_eq (front back : List Char) (h : text = front ++ back) :
    passes text.toArray .none test front.length = back.head?.any (test.accepts .none) := by
  rw [passes, h, List.getElem?_toArray, List.getElem?_append_right (Nat.le_refl _), Nat.sub_self]
  cases back with
  | nil => rfl
  | cons c back => rfl

/-- A single character that passes a test. -/
theorem takes_one :
    Step.Takes text ((Node.one .none test).run text.toArray)
      fun piece => ∃ c, piece = [c] ∧ test.accepts .none c = true := by
  intro front back marks rest htext
  rw [Node.run, passes_eq test front back htext]
  cases back with
  | nil => simp
  | cons c back =>
      rw [List.head?_cons, Option.any_some]
      constructor
      · intro hsome
        split at hsome
        · rename_i hc
          exact ⟨[c], back, rfl, ⟨c, rfl, hc⟩, by rwa [List.length_append]⟩
        · exact absurd hsome (by simp)
      · rintro ⟨piece, left, hback, ⟨d, rfl, hd⟩, hrest⟩
        rw [(List.cons.inj hback).1, if_pos hd]
        rwa [List.length_append] at hrest

/-- As many characters are counted as stand there and pass the test. -/
theorem countPassing_eq (back : List Char) :
    ∀ front fuel n, text = front ++ back → back.length ≤ fuel →
      countPassing text.toArray .none test fuel front.length n =
        n + (back.takeWhile (test.accepts .none)).length := by
  -- The front grows by what is counted, while the place stays where the front ends.
  induction back with
  | nil =>
      intro front fuel n htext hfuel
      cases fuel with
      | zero => rfl
      | succ fuel =>
          rw [countPassing, passes_eq test front [] htext]
          rfl
  | cons c back ih =>
      intro front fuel n htext hfuel
      rcases Nat.exists_eq_add_of_lt hfuel with ⟨k, rfl⟩
      rw [countPassing, passes_eq test front _ htext, List.head?_cons, Option.any_some,
        List.takeWhile_cons]
      split
      · have hmore := ih (front ++ [c]) (back.length + k) (n + 1) (by rw [htext]; simp) (by omega)
        rw [List.length_append, List.length_singleton] at hmore
        rw [hmore, List.length_cons]
        omega
      · rfl

/-- The order in which places are tried does not matter for whether one of them is good. -/
theorem isSome_tryDown (rest : Rest) (marks : Marks) (least n : Nat) :
    (tryDown rest marks least n).isSome ↔ ∃ k ≤ n, (rest (least + k) marks).isSome := by
  induction n with
  | zero => simp [tryDown]
  | succ n ih =>
      rw [tryDown]
      cases h : rest (least + (n + 1)) marks with
      | some r => exact iff_of_true rfl ⟨n + 1, Nat.le_refl _, by rw [h]; rfl⟩
      | none =>
          rw [ih]
          constructor
          -- The place that is tried first was no good, so a good one is among those that are
          -- left.
          · rintro ⟨k, hk, hrest⟩
            exact ⟨k, by omega, hrest⟩
          · rintro ⟨k, hk, hrest⟩
            rcases Nat.lt_or_eq_of_le hk with hlt | rfl
            · exact ⟨k, by omega, hrest⟩
            · rw [h] at hrest
              exact absurd hrest (by simp)

/-- Any number of characters that pass a test. -/
theorem takes_many :
    Step.Takes text ((Node.loop .greedy 0 none (.one .none test)).run text.toArray)
      fun piece => ∀ c ∈ piece, test.accepts .none c = true := by
  intro front back marks rest htext
  have hcount := countPassing_eq test back front back.length 0 htext (Nat.le_refl _)
  -- The loop is bounded by the characters that are left, which is enough to count all that
  -- pass.
  have hroom : text.toArray.size - front.length = back.length := by
    rw [htext, List.size_toArray, List.length_append]
    omega
  rw [Node.run, runChars]
  simp only [hroom, hcount, Nat.not_lt_zero, if_false, isSome_tryDown, Nat.zero_add, Nat.add_zero,
    Nat.sub_zero, List.length_append]
  constructor
  · rintro ⟨k, hk, hrest⟩
    refine ⟨back.take k, back.drop k, (List.take_append_drop k back).symm, ?_, ?_⟩
    · intro c hc
      -- A piece within the counted front passes because the whole of that front does.
      have hprefix : back.take k <+: back.takeWhile (test.accepts .none) :=
        List.prefix_of_prefix_length_le (List.take_prefix k back) (List.takeWhile_prefix _)
          (Nat.le_trans (List.length_take_le k back) hk)
      have hmem := hprefix.mem hc
      exact (List.mem_takeWhile_imp hmem :)
    · have hlen := List.IsPrefix.length_le (List.takeWhile_prefix (test.accepts .none) (l := back))
      rwa [List.length_take_of_le (Nat.le_trans hk hlen)]
  · rintro ⟨piece, left, rfl, hpiece, hrest⟩
    refine ⟨piece.length, ?_, hrest⟩
    rw [List.takeWhile_append_of_pos hpiece, List.length_append]
    omega

end

/-! ## Sequences and options -/

theorem run_sequence (subject : Subject) (items : List Node) :
    (Node.sequence items).run subject = runSequence subject items := by
  funext i marks rest
  rw [Node.run]

/-- Nothing is taken where there is nothing to match. -/
theorem takes_nil : Step.Takes text (runSequence text.toArray []) fun piece => piece = [] := by
  intro front back marks rest htext
  rw [runSequence]
  constructor
  · intro hrest
    exact ⟨[], back, rfl, rfl, by rwa [List.append_nil]⟩
  · rintro ⟨piece, left, hback, rfl, hrest⟩
    rwa [List.append_nil] at hrest

/-- One piece behind another. -/
theorem takes_cons {n : Node} {more : List Node} {first second : List Char → Prop}
    (hfirst : Step.Takes text (n.run text.toArray) first)
    (hsecond : Step.Takes text (runSequence text.toArray more) second) :
    Step.Takes text (runSequence text.toArray (n :: more))
      fun piece => ∃ a b, piece = a ++ b ∧ first a ∧ second b := by
  intro front back marks rest htext
  rw [runSequence, hfirst front back marks _ htext]
  constructor
  · rintro ⟨a, left, rfl, ha, hmore⟩
    rw [hsecond (front ++ a) left marks rest (by rw [htext, List.append_assoc])] at hmore
    rcases hmore with ⟨b, left', rfl, hb, hrest⟩
    rw [List.append_assoc] at hrest
    exact ⟨a ++ b, left', (List.append_assoc a b left').symm, ⟨a, b, rfl, ha, hb⟩, hrest⟩
  · rintro ⟨_, left', rfl, ⟨a, b, rfl, ha, hb⟩, hrest⟩
    refine ⟨a, b ++ left', List.append_assoc a b left', ha, ?_⟩
    rw [hsecond (front ++ a) (b ++ left') marks rest (by rw [htext]; simp)]
    exact ⟨b, left', rfl, hb, by rwa [List.append_assoc]⟩

/-- Pieces one behind the other. -/
theorem takes_sequence {α : Type} (node : α → Node) (kind : α → List Char → Prop)
    (h : ∀ a, Step.Takes text ((node a).run text.toArray) (kind a)) (as : List α) :
    Step.Takes text ((Node.sequence (as.map node)).run text.toArray)
      fun piece => ∃ pieces, List.Forall₂ kind as pieces ∧ pieces.flatten = piece := by
  rw [run_sequence]
  -- The last piece has nothing behind it; an earlier one has the pieces of the induction behind
  -- it.
  induction as with
  | nil =>
      refine takes_nil.congr fun piece => ?_
      simp only [List.forall₂_nil_left_iff, exists_eq_left, List.flatten_nil]
      exact eq_comm
  | cons a as ih =>
      refine (takes_cons (h a) ih).congr fun piece => ?_
      constructor
      · rintro ⟨first, _, rfl, hfirst, pieces, hpieces, rfl⟩
        exact ⟨first :: pieces, .cons hfirst hpieces, rfl⟩
      · rintro ⟨_, hall, rfl⟩
        cases hall with
        | cons hfirst hpieces => exact ⟨_, _, rfl, hfirst, _, hpieces, rfl⟩

/-- The one iteration that a repetition may have is tried before it is left out. -/
theorem runLoop_option (size : Nat) (step : Step) (i : Nat) (marks : Marks) (rest : Rest) :
    runLoop size step .greedy 0 (some 1) i marks rest =
      match step i marks rest with
      | some r => some r
      | none => rest i marks := by
  simp only [runLoop, runRequired, runGreedy, mayRepeat, Option.map_some, Nat.sub_zero,
    Nat.lt_irrefl, decide_false, Bool.false_and, Bool.false_eq_true, if_false]
  rfl

/-- At most one piece. -/
theorem takes_option {body : Node} {kind : List Char → Prop}
    (hone : ∀ folding test, body ≠ .one folding test)
    (h : Step.Takes text (body.run text.toArray) kind) :
    Step.Takes text ((Node.loop .greedy 0 (some 1) body).run text.toArray)
      fun piece => piece = [] ∨ kind piece := by
  intro front back marks rest htext
  have hbody := h front back marks rest htext
  rw [Node.run, runLoop_option]
  -- What the body finds is found with the piece. Where it finds nothing the rest is tried at
  -- once, with nothing taken.
  · cases hrun : body.run text.toArray front.length marks rest with
    | some r =>
        rw [hrun] at hbody
        rcases hbody.mp rfl with ⟨piece, left, hback, hpiece, hrest⟩
        exact iff_of_true rfl ⟨piece, left, hback, Or.inr hpiece, hrest⟩
    | none =>
        rw [hrun] at hbody
        constructor
        · intro hrest
          exact ⟨[], back, rfl, Or.inl rfl, by rwa [List.append_nil]⟩
        · rintro ⟨piece, left, hback, rfl | hpiece, hrest⟩
          · rwa [List.append_nil] at hrest
          · exact absurd (hbody.mpr ⟨piece, left, hback, hpiece, hrest⟩) (by simp)
  · exact hone

end Pattern

end CodeAudit
