import CodeAudit.Fingerprint.Key
import CodeAudit.Proofs.Digits

/-!
# Parts of a Key

What can be told from the key of a finding.

A key is four parts with bars between them. The last part is a number, so the last bar of a
key is where the number begins, and the number is told from the key whatever the other parts
are. The other three are `Finding.body`. Where they begin and end is only clear if the first
two have no bar in them: the third may have as many as it likes.

The path is in the key with forward slashes. Two paths that differ in the kind of their
slashes are one path there, although they are the paths of different files.

## Main definitions

* `Finding.body`: The first three parts of the key of a finding.
* `Finding.key`: The key of a finding with a number.

## Theorems

* `Finding.key_inj`: The body and the number are told from the key.
* `Finding.body_inj`: The three parts are told from the body, if the first two have no bars.
* `Finding.body_eq_of_likeness`: Findings that are alike have the same body.
-/

namespace CodeAudit

/-! ## Bars -/

/-- What stands on both sides of the first bar. -/
theorem append_bar_inj_left (a b c d : List Char) (ha : '|' ∉ a) (hc : '|' ∉ c)
    (h : a ++ '|' :: b = c ++ '|' :: d) : a = c ∧ b = d := by
  -- If one of the fronts is longer, it has the bar in it that ends the other one.
  rcases List.append_eq_append_iff.mp h with ⟨more, heq, hbar⟩ | ⟨more, heq, hbar⟩
  · cases more with
    | nil => exact ⟨by rw [heq, List.append_nil], (List.cons.inj hbar).2⟩
    | cons e more =>
        refine absurd ?_ hc
        rw [heq, ← (List.cons.inj hbar).1]
        exact List.mem_append_right a List.mem_cons_self
  · cases more with
    | nil => exact ⟨by rw [heq, List.append_nil], (List.cons.inj hbar).2.symm⟩
    | cons e more =>
        refine absurd ?_ ha
        rw [heq, ← (List.cons.inj hbar).1]
        exact List.mem_append_right c List.mem_cons_self

/-- What stands on both sides of the last bar. -/
theorem append_bar_inj_right (a b c d : List Char) (hb : '|' ∉ b) (hd : '|' ∉ d)
    (h : a ++ '|' :: b = c ++ '|' :: d) : a = c ∧ b = d := by
  -- The last bar is the first one from behind.
  have hreverse := congrArg List.reverse h
  rw [List.reverse_append, List.reverse_append, List.reverse_cons, List.reverse_cons,
    List.append_assoc, List.append_assoc] at hreverse
  rw [← List.mem_reverse] at hb hd
  rcases append_bar_inj_left _ _ _ _ hb hd hreverse with ⟨hbehind, hfront⟩
  exact ⟨List.reverse_inj.mp hfront, List.reverse_inj.mp hbehind⟩

/-- What stands between two bars and on both sides of them, if the bars are the first two. -/
theorem append_bars_inj (a b c a' b' c' : List Char) (ha : '|' ∉ a) (hb : '|' ∉ b)
    (ha' : '|' ∉ a') (hb' : '|' ∉ b')
    (h : a ++ '|' :: b ++ '|' :: c = a' ++ '|' :: b' ++ '|' :: c') :
    a = a' ∧ b = b' ∧ c = c' := by
  rw [List.append_assoc, List.append_assoc] at h
  rcases append_bar_inj_left _ _ _ _ ha ha' h with ⟨hfirst, hrest⟩
  exact ⟨hfirst, append_bar_inj_left _ _ _ _ hb hb' hrest⟩

theorem bar_not_mem_toString (i : Int) : '|' ∉ (toString i).toList := by
  intro h
  rw [toString_int_toList] at h
  have hdigits : '|' ∉ Nat.toDigits 10 i.natAbs :=
    fun hmem => absurd (isDigit_of_mem_toDigits _ '|' hmem) (by decide)
  split at h
  · exact hdigits h
  · exact (List.mem_cons.mp h).elim (by decide) hdigits

theorem bar_mem_forwardSlashes (path : List Char) : '|' ∈ forwardSlashes path ↔ '|' ∈ path := by
  rw [forwardSlashes, List.mem_map]
  refine ⟨fun ⟨c, hc, heq⟩ => ?_, fun h => ⟨'|', h, rfl⟩⟩
  split at heq
  · exact absurd heq (by decide)
  · exact heq ▸ hc

/-- A path without backslashes has forward slashes only. -/
theorem forwardSlashes_of_not_mem (path : List Char) (h : '\\' ∉ path) :
    forwardSlashes path = path := by
  rw [forwardSlashes]
  refine (List.map_congr_left fun c hc => ?_).trans (List.map_id path)
  have hne : ¬ (c == '\\') = true := fun heq => h (beq_iff_eq.mp heq ▸ hc)
  exact if_neg hne

/-! ## Keys -/

namespace Finding

/-- The first three parts of the key of a finding. -/
def body (f : Finding) : List Char :=
  f.ruleId.toList ++ '|' :: forwardSlashes f.path.toList ++ '|' :: squeeze f.matched.toList

/-- The key of a finding with a number. -/
def key (f : Finding) (number : Nat) : List Char :=
  fingerprintKey f.ruleId f.path f.matched number

theorem key_eq (f : Finding) (number : Nat) :
    f.key number = f.body ++ '|' :: (toString (number : Int)).toList := rfl

/-- The body and the number are told from the key. -/
theorem key_inj (f g : Finding) (m n : Nat) :
    f.key m = g.key n ↔ f.body = g.body ∧ m = n := by
  rw [key_eq, key_eq]
  refine ⟨fun h => ?_, fun h => by rw [h.1, h.2]⟩
  rcases append_bar_inj_right _ _ _ _ (bar_not_mem_toString m) (bar_not_mem_toString n) h with
    ⟨hbody, hnumber⟩
  exact ⟨hbody, toString_nat_inj m n (String.toList_inj.mp hnumber)⟩

/-- Findings that are alike have the same body. -/
theorem body_eq_of_likeness (f g : Finding) (h : f.likeness = g.likeness) : f.body = g.body := by
  rw [likeness, likeness, Prod.mk.injEq, Prod.mk.injEq] at h
  rw [body, body, h.1, h.2.1, h.2.2]

/-- There is no bar in the rule and the path of a finding. -/
def HasNoBar (f : Finding) : Prop :=
  '|' ∉ f.ruleId.toList ∧ '|' ∉ f.path.toList

instance (f : Finding) : Decidable f.HasNoBar :=
  inferInstanceAs (Decidable (_ ∧ _))

/-- The three parts are told from the body, if the first two have no bars. -/
theorem body_inj (f g : Finding) (hf : f.HasNoBar) (hg : g.HasNoBar) :
    f.body = g.body ↔ f.ruleId = g.ruleId ∧
      forwardSlashes f.path.toList = forwardSlashes g.path.toList ∧
      squeeze f.matched.toList = squeeze g.matched.toList := by
  rw [body, body]
  refine ⟨fun h => ?_, fun h => by rw [h.1, h.2.1, h.2.2]⟩
  -- Changing the slashes brings no bar into a path.
  rcases append_bars_inj _ _ _ _ _ _ hf.1 (mt (bar_mem_forwardSlashes _).mp hf.2) hg.1
    (mt (bar_mem_forwardSlashes _).mp hg.2) h with ⟨hrule, hpath, htext⟩
  exact ⟨String.toList_inj.mp hrule, hpath, htext⟩

end Finding

end CodeAudit
