import CodeAudit.Text.Blank
import Mathlib.Data.List.TakeWhile

/-!
# Words and Blanks

That a text is squeezed to its words, and to nothing but them.

Squeezing is defined by the words of a text. It is the same as making a space of every run of
blanks and taking away those at both ends, which is how spacing is levelled when a text is read
from the left: `trim_collapse`. There the words are never seen, so the induction is on the text
with the word that is being read in front of it, and goes through two statements in turn, one for
the inside of a word and one for the inside of a run of blanks.

Words have no blanks in them and are not empty, so a text that was squeezed can be cut into them
again. Texts with the same words are therefore the ones that are squeezed to the same text.

## Main definitions

* `collapse`: A text with one space for every run of blanks.
* `IsTrimmed`: A text neither begins nor ends with a blank.

## Theorems

* `words_eq_filter_splitOnP`: Words are the pieces between blanks that are not empty.
* `trim_collapse`: Squeezing makes spaces of runs of blanks and takes away those at the ends.
* `squeeze_eq_iff`: Texts are squeezed to the same text exactly if they have the same words.
* `trim_eq_self_iff`: Trimming leaves a text as it is exactly if it has no blanks at its ends.
-/

namespace CodeAudit

/-! ## Words -/

theorem modifyHead_nil_append (pieces : List (List Char)) :
    pieces.modifyHead (([] : List Char) ++ ·) = pieces := by
  cases pieces with
  | nil => rfl
  | cons p rest => rfl

/-- The word being read is what stands in front of the first piece between blanks. -/
theorem wordsFrom_eq (cs : List Char) : ∀ cur : List Char,
    wordsFrom cur cs =
      ((cs.splitOnP isBlank).modifyHead (cur.reverse ++ ·)).filter fun w => !w.isEmpty := by
  induction cs with
  | nil =>
      intro cur
      rw [wordsFrom, List.splitOnP_nil, List.modifyHead_cons, List.append_nil, List.filter_cons,
        List.filter_nil, List.isEmpty_reverse]
      cases cur.isEmpty with
      | true => rfl
      | false => rfl
  | cons c rest ih =>
      intro cur
      rw [wordsFrom, List.splitOnP_cons_eq_if_modifyHead]
      by_cases hc : isBlank c = true
      · -- The word ends here, and what comes next begins with no word in front.
        rw [if_pos hc, if_pos hc, ih [], List.reverse_nil, modifyHead_nil_append,
          List.modifyHead_cons, List.append_nil, List.filter_cons, List.isEmpty_reverse]
        cases cur.isEmpty with
        | true => rfl
        | false => rfl
      · rw [if_neg hc, if_neg hc, ih, List.modifyHead_modifyHead, List.reverse_cons]
        congr 2
        funext piece
        exact List.append_assoc cur.reverse [c] piece

/-- Words are the pieces between blanks that are not empty. -/
theorem words_eq_filter_splitOnP (cs : List Char) :
    words cs = (cs.splitOnP isBlank).filter fun w => !w.isEmpty := by
  rw [words, wordsFrom_eq, List.reverse_nil, modifyHead_nil_append]

/-- A word is not empty and has no blank in it. -/
def IsWord (w : List Char) : Prop :=
  w ≠ [] ∧ ∀ c ∈ w, ¬ isBlank c = true

theorem IsWord.reverse {w : List Char} (h : IsWord w) : IsWord w.reverse :=
  ⟨fun heq => h.1 (List.reverse_eq_nil_iff.mp heq), fun c hc => h.2 c (List.mem_reverse.mp hc)⟩

theorem IsWord.isEmpty_eq {w : List Char} (h : IsWord w) : ¬ w.isEmpty = true :=
  fun hempty => h.1 (List.isEmpty_iff.mp hempty)

theorem isWord_of_mem_wordsFrom (cs : List Char) :
    ∀ cur : List Char, (∀ c ∈ cur, ¬ isBlank c = true) → ∀ w ∈ wordsFrom cur cs, IsWord w := by
  induction cs with
  | nil =>
      intro cur hcur w hw
      rw [wordsFrom] at hw
      split at hw
      · exact absurd hw List.not_mem_nil
      · rename_i hne
        have hword : IsWord cur := ⟨fun heq => hne (List.isEmpty_iff.mpr heq), hcur⟩
        rw [List.mem_singleton.mp hw]
        exact hword.reverse
  | cons c rest ih =>
      intro cur hcur w hw
      have hnil : ∀ c ∈ ([] : List Char), ¬ isBlank c = true :=
        fun c hc => absurd hc List.not_mem_nil
      rw [wordsFrom] at hw
      split at hw
      · split at hw
        · exact ih [] hnil w hw
        · rename_i hne
          have hword : IsWord cur := ⟨fun heq => hne (List.isEmpty_iff.mpr heq), hcur⟩
          rcases List.mem_cons.mp hw with heq | hw
          · rw [heq]
            exact hword.reverse
          · exact ih [] hnil w hw
      · rename_i hc
        refine ih (c :: cur) (fun d hd => ?_) w hw
        rcases List.mem_cons.mp hd with heq | hd
        · rw [heq]
          exact hc
        · exact hcur d hd

theorem isWord_of_mem_words (cs : List Char) : ∀ w ∈ words cs, IsWord w :=
  isWord_of_mem_wordsFrom cs [] fun _ hc => absurd hc List.not_mem_nil

/-! ## Squeezed texts -/

/-- Something is left of words when they are joined. -/
theorem intercalate_eq_nil_iff (ws : List (List Char)) (h : ∀ w ∈ ws, IsWord w) :
    List.intercalate [' '] ws = [] ↔ ws = [] := by
  cases ws with
  | nil => exact ⟨fun _ => rfl, fun _ => rfl⟩
  | cons w rest =>
      -- A word in front is not empty, and so is not what is joined.
      have hw := (h w List.mem_cons_self).1
      cases rest with
      | nil =>
          rw [List.intercalate_singleton]
          exact ⟨fun heq => absurd heq hw, fun heq => nomatch heq⟩
      | cons v rest =>
          rw [List.intercalate_cons_cons, List.append_assoc]
          exact ⟨fun heq => absurd (List.append_eq_nil_iff.mp heq).1 hw, fun heq => nomatch heq⟩

theorem squeeze_eq_nil_iff (cs : List Char) : squeeze cs = [] ↔ words cs = [] :=
  intercalate_eq_nil_iff (words cs) (isWord_of_mem_words cs)

/-- A text that was squeezed is cut into its words by the spaces that are left. -/
theorem splitOn_squeeze (cs : List Char) (h : words cs ≠ []) :
    (squeeze cs).splitOn ' ' = words cs :=
  List.splitOn_intercalate ' ' (fun w hw hspace => (isWord_of_mem_words cs w hw).2 ' ' hspace rfl) h

/-- Texts are squeezed to the same text exactly if they have the same words. -/
theorem squeeze_eq_iff (cs ds : List Char) : squeeze cs = squeeze ds ↔ words cs = words ds := by
  refine ⟨fun h => ?_, fun h => by rw [squeeze, squeeze, h]⟩
  -- Without words nothing is left. Otherwise the spaces that are left give the words back.
  by_cases hcs : words cs = []
  · rw [hcs, ← (squeeze_eq_nil_iff ds).mp (h ▸ (squeeze_eq_nil_iff cs).mpr hcs)]
  · have hds : words ds ≠ [] := fun hds =>
      hcs ((squeeze_eq_nil_iff cs).mp (h.trans ((squeeze_eq_nil_iff ds).mpr hds)))
    rw [← splitOn_squeeze cs hcs, ← splitOn_squeeze ds hds, h]

/-! ## Runs of blanks -/

/-- A text with one space for every run of blanks, in which a run may have begun already. -/
def collapseFrom : Bool → List Char → List Char
  | _, [] => []
  | begun, c :: rest =>
    if isBlank c then
      if begun then collapseFrom true rest else ' ' :: collapseFrom true rest
    else c :: collapseFrom false rest

/-- A text with one space for every run of blanks. -/
def collapse (cs : List Char) : List Char :=
  collapseFrom false cs

/-- The trailing blanks of a text are those of its second part, and those of the first part as well
    if the second has nothing else. -/
theorem trimEnd_append (cs ds : List Char) :
    trimEnd (cs ++ ds) = if trimEnd ds = [] then trimEnd cs else cs ++ trimEnd ds := by
  rw [trimEnd, trimEnd, trimEnd, List.reverse_append, List.dropWhile_append]
  -- Blanks are dropped from the end, so it matters whether the second part has anything else.
  cases ds.reverse.dropWhile isBlank with
  | nil => rfl
  | cons c more =>
      have hne : ¬ (c :: more).reverse = [] := fun h => nomatch List.reverse_eq_nil_iff.mp h
      rw [if_neg hne, List.isEmpty_cons, if_neg Bool.false_ne_true, List.reverse_append,
        List.reverse_reverse]

theorem trimEnd_of_isWord (w : List Char) (h : IsWord w) : trimEnd w = w := by
  have hreverse : w.reverse.dropWhile isBlank = w.reverse := by
    rw [List.dropWhile_eq_self_iff]
    exact fun hlt => h.2 _ (List.mem_reverse.mp (List.getElem_mem hlt))
  rw [trimEnd, hreverse, List.reverse_reverse]

/-- A run of blanks leaves nothing of itself at the end, and a word that is being read stands in
    front of the words to come. -/
theorem trimEnd_collapseFrom (cs : List Char) :
    trimEnd (collapseFrom true cs) = List.intercalate [' '] (wordsFrom [] cs) ∧
    ∀ cur : List Char, IsWord cur →
      trimEnd (cur.reverse ++ collapseFrom false cs) =
        List.intercalate [' '] (wordsFrom cur cs) := by
  -- Both are proved together: a blank leads from the second to the first, any other character
  -- back.
  induction cs with
  | nil =>
      refine ⟨rfl, fun cur hcur => ?_⟩
      rw [collapseFrom, List.append_nil, trimEnd_of_isWord _ hcur.reverse, wordsFrom,
        if_neg hcur.isEmpty_eq, List.intercalate_singleton]
  | cons c rest ih =>
      rcases ih with ⟨hblanks, hword⟩
      by_cases hc : isBlank c = true
      · refine ⟨?_, fun cur hcur => ?_⟩
        · rw [collapseFrom, if_pos hc, if_pos rfl, wordsFrom, if_pos hc, List.isEmpty_nil,
            if_pos rfl]
          exact hblanks
        · rw [collapseFrom, if_pos hc, if_neg Bool.false_ne_true, wordsFrom, if_pos hc,
            if_neg hcur.isEmpty_eq, List.append_cons, trimEnd_append, hblanks]
          -- The space that was written stays only if another word comes.
          have hnil := intercalate_eq_nil_iff (wordsFrom [] rest) (isWord_of_mem_words rest)
          by_cases hrest : wordsFrom [] rest = []
          · have hspace : trimEnd (cur.reverse ++ [' ']) = trimEnd cur.reverse :=
              trimEnd_append cur.reverse [' ']
            rw [if_pos (hnil.mpr hrest), hspace, trimEnd_of_isWord _ hcur.reverse, hrest,
              List.intercalate_singleton]
          · rw [if_neg fun heq => hrest (hnil.mp heq), List.intercalate_cons_of_ne_nil hrest]
      · have hletter : IsWord [c] :=
          ⟨List.cons_ne_nil c [], fun d hd => (List.mem_singleton.mp hd) ▸ hc⟩
        refine ⟨?_, fun cur hcur => ?_⟩
        · rw [collapseFrom, if_neg hc, wordsFrom, if_neg hc]
          exact hword [c] hletter
        · rw [collapseFrom, if_neg hc, wordsFrom, if_neg hc, List.append_cons, ← List.reverse_cons]
          refine hword (c :: cur) ⟨List.cons_ne_nil c cur, fun d hd => ?_⟩
          exact (List.mem_cons.mp hd).elim (fun heq => heq ▸ hc) (hcur.2 d)

/-- In a run of blanks that has begun, the next character is none. -/
theorem trimStart_collapseFrom (cs : List Char) :
    trimStart (collapseFrom true cs) = collapseFrom true cs := by
  induction cs with
  | nil => rfl
  | cons c rest ih =>
      rw [collapseFrom]
      -- The run has begun, so that a blank is left out and the rest begins in the same way.
      by_cases hc : isBlank c = true
      · rw [if_pos hc, if_pos rfl]
        exact ih
      · rw [if_neg hc, trimStart, List.dropWhile_cons_of_neg hc]

/-- Taking away the blanks at the front is as if a run of them had begun. -/
theorem trimStart_collapse (cs : List Char) : trimStart (collapse cs) = collapseFrom true cs := by
  cases cs with
  | nil => rfl
  | cons c rest =>
      rw [collapse, collapseFrom, collapseFrom]
      by_cases hc : isBlank c = true
      · have hspace : isBlank ' ' = true := rfl
        rw [if_pos hc, if_pos hc, if_neg Bool.false_ne_true, if_pos rfl, trimStart,
          List.dropWhile_cons_of_pos hspace]
        exact trimStart_collapseFrom rest
      · rw [if_neg hc, if_neg hc, trimStart, List.dropWhile_cons_of_neg hc]

/-- Squeezing makes spaces of runs of blanks and takes away those at the ends. -/
theorem trim_collapse (cs : List Char) : trim (collapse cs) = squeeze cs := by
  rw [trim, trimStart_collapse, (trimEnd_collapseFrom cs).1, squeeze, words]

/-! ## The ends of a text -/

/-- A text neither begins nor ends with a blank. -/
def IsTrimmed (cs : List Char) : Prop :=
  (∀ c, cs.head? = some c → ¬ isBlank c = true) ∧ ∀ c, cs.getLast? = some c → ¬ isBlank c = true

theorem not_isBlank_of_head?_trimStart (cs : List Char) (c : Char)
    (h : (trimStart cs).head? = some c) : ¬ isBlank c = true := by
  have hfirst := List.head?_dropWhile_not isBlank cs
  rw [show (cs.dropWhile isBlank).head? = some c from h] at hfirst
  exact Bool.not_eq_true _ ▸ hfirst

/-- A text without its trailing blanks begins as it did. -/
theorem trimEnd_prefix (cs : List Char) : trimEnd cs <+: cs := by
  have hsuffix := List.reverse_prefix.mpr (List.dropWhile_suffix (l := cs.reverse) isBlank)
  rwa [List.reverse_reverse] at hsuffix

theorem isTrimmed_trim (cs : List Char) : IsTrimmed (trim cs) := by
  refine ⟨fun c hc => ?_, fun c hc => ?_⟩
  · refine not_isBlank_of_head?_trimStart cs c ?_
    rcases trimEnd_prefix (trimStart cs) with ⟨rest, hrest⟩
    rw [← hrest, List.head?_append, show (trimEnd (trimStart cs)).head? = some c from hc]
    rfl
  · rw [trim, trimEnd, List.getLast?_reverse] at hc
    exact not_isBlank_of_head?_trimStart (trimStart cs).reverse c hc

/-- Without a blank in front there is nothing to take away there. -/
theorem trimStart_eq_self (cs : List Char) (h : ∀ c, cs.head? = some c → ¬ isBlank c = true) :
    trimStart cs = cs := by
  cases cs with
  | nil => rfl
  | cons c rest => exact List.dropWhile_cons_of_neg (h c rfl)

/-- Trimming leaves a text as it is exactly if it has no blanks at its ends. -/
theorem trim_eq_self_iff (cs : List Char) : trim cs = cs ↔ IsTrimmed cs := by
  refine ⟨fun h => h ▸ isTrimmed_trim cs, fun h => ?_⟩
  have hback : trimStart cs.reverse = cs.reverse :=
    trimStart_eq_self _ fun c hc => h.2 c (by rwa [List.head?_reverse] at hc)
  rw [trim, trimStart_eq_self cs h.1, trimEnd]
  exact (congrArg List.reverse hback).trans cs.reverse_reverse

end CodeAudit
