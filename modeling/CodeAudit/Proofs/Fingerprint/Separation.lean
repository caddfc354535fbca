import CodeAudit.Proofs.Fingerprint.Key
import CodeAudit.Proofs.Text.Words

/-!
# What a Key Tells Apart

Which calls are given the same key.

A key is made of texts that are joined and not escaped, and the matched text may be anything: it
may have bars in it, and end in what looks like a number behind a bar. All the same the key tells
the parts, because it is cut at the first two bars and at the last one, and neither the rule, the
path nor the number has a bar of its own.

What the parts tell is a little less than what they were made of. Two paths are one if they differ
in the kind of their slashes, and two texts are one if they have the same words.

## Theorems

* `fingerprintKey_eq_iff`: The parts that a key tells.
-/

namespace CodeAudit

/-- A key is told from its parts in the order of the source: rule, path with forward slashes, text
    with its runs of blanks made spaces and none at the ends, and number. -/
theorem fingerprintKey_eq_collapse (ruleId path matched : String) (number : Int) :
    fingerprintKey ruleId path matched number =
      ruleId.toList ++ '|' :: forwardSlashes path.toList ++ '|' :: trim (collapse matched.toList) ++
        '|' :: (toString number).toList := by
  rw [fingerprintKey, trim_collapse]

/-- Where rules and paths have no bars, two keys are the same exactly if the rules, the paths up to
    the kind of their slashes, the words of the texts, and the numbers are. -/
theorem fingerprintKey_eq_iff (ruleId path matched ruleId' path' matched' : String) (m n : Int)
    (hrule : '|' ∉ ruleId.toList) (hpath : '|' ∉ path.toList)
    (hrule' : '|' ∉ ruleId'.toList) (hpath' : '|' ∉ path'.toList) :
    (fingerprintKey ruleId path matched m = fingerprintKey ruleId' path' matched' n ↔
      ruleId = ruleId' ∧ forwardSlashes path.toList = forwardSlashes path'.toList ∧
        words matched.toList = words matched'.toList ∧ m = n) ∧
    words matched.toList = ((matched.toList.splitOnP isBlank).filter fun w => !w.isEmpty) ∧
    fingerprint ruleId path matched m = Sha256.digest (Utf8.encode
      (ruleId.toList ++ '|' :: forwardSlashes path.toList ++
        '|' :: trim (collapse matched.toList) ++ '|' :: (toString m).toList)) := by
  refine ⟨⟨fun h => ?_, fun h => ?_⟩, words_eq_filter_splitOnP _, ?_⟩
  · rw [fingerprintKey, fingerprintKey] at h
    -- The number is behind the last bar, whatever the text in front of it looks like.
    rcases append_bar_inj_right _ _ _ _ (bar_not_mem_toString m) (bar_not_mem_toString n) h with
      ⟨hparts, hnumber⟩
    rcases append_bars_inj _ _ _ _ _ _ hrule (mt (bar_mem_forwardSlashes _).mp hpath) hrule'
      (mt (bar_mem_forwardSlashes _).mp hpath') hparts with ⟨hruleId, hslashes, htext⟩
    refine ⟨String.toList_inj.mp hruleId, hslashes, (squeeze_eq_iff _ _).mp htext, ?_⟩
    exact toString_int_inj m n (String.toList_inj.mp hnumber)
  · rw [fingerprintKey, fingerprintKey, h.1, h.2.1, (squeeze_eq_iff _ _).mpr h.2.2.1, h.2.2.2]
  · rw [fingerprint, fingerprintKey_eq_collapse]

theorem fingerprintKey_eq_iff_spacing :
    '|' ∉ "R".toList ∧ '|' ∉ "a/b.py".toList ∧ '|' ∉ "a\\b.py".toList ∧
    fingerprintKey "R" "a/b.py" "x|1 y|2" 3 =
      fingerprintKey "R" "a\\b.py" "\tx|1\u00a0\ny|2 " 3 ∧
    fingerprintKey "R" "a/b.py" "x|1 y" 2 ≠ fingerprintKey "R" "a/b.py" "x|1 y|2" (-2) := by
  have hrule : '|' ∉ "R".toList := by decide
  have hforward : '|' ∉ "a/b.py".toList := by decide
  have hbackward : '|' ∉ "a\\b.py".toList := by decide
  refine ⟨hrule, hforward, hbackward, ?_, fun h => ?_⟩
  · exact (fingerprintKey_eq_iff "R" "a/b.py" "x|1 y|2" "R" "a\\b.py" "\tx|1\u00a0\ny|2 " 3 3
      hrule hforward hrule hbackward).1.mpr ⟨rfl, by decide, by decide, rfl⟩
  · exact absurd ((fingerprintKey_eq_iff "R" "a/b.py" "x|1 y" "R" "a/b.py" "x|1 y|2" 2 (-2)
      hrule hforward hrule hforward).1.mp h).2.2.1 (by decide)

end CodeAudit
