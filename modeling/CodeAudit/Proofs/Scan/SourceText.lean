import CodeAudit.Proofs.Scan.Reported
import CodeAudit.Proofs.Text.Snippets
import CodeAudit.Proofs.Text.Utf8

/-!
# Texts of Source Files

That reading a source file keeps its text and its lines.

A line feed parts the bytes of a file and its text at the same place. So the text falls into the
lines that the bytes fall into, each of them read by itself, whatever is invalid in the others:
this is `segments_decodeTolerant`. The numbers follow from it. The lines of the text and their
number are those of the bytes, and the number of the line of an offset is that of the line of the
bytes from which the text around the offset has been read.

A cut of a list at an element is told by how often the element stands in front of it. So the text
in front of a line feed is what has been read from the bytes in front of the line feed that has the
same number there.

## Main definitions

* `Source.rawLines`: The lines of a file, as its bytes have them.
* `Source.KeepsLines`: A text has the lines of a byte string.

## Theorems

* `eq_of_cut`: A cut is told by how often the element stands in front of it.
* `segments_decodeTolerant`: Every line is read by itself.
* `keepsLines_decodeTolerant`: The text of a byte string has its lines.
* `readSource_keeps_lines`: Reading a source file keeps its text and its lines.
-/

namespace CodeAudit

/-! ## Cuts -/

/-- A list can be cut at any of the occurrences of an element. -/
theorem exists_cut_of_lt_count {α : Type} [BEq α] [LawfulBEq α] (a : α) (xs : List α) :
    ∀ i, i < xs.count a → ∃ front back, xs = front ++ a :: back ∧ front.count a = i := by
  induction xs with
  | nil =>
      intro i hi
      rw [List.count_nil] at hi
      exact absurd hi (Nat.not_lt_zero i)
  | cons x rest ih =>
      intro i hi
      -- Each occurrence in front uses up one of the number.
      by_cases hx : x = a
      · rw [hx]
        rw [hx, List.count_cons_self] at hi
        cases i with
        | zero => exact ⟨[], rest, rfl, List.count_nil⟩
        | succ i =>
            rcases ih i (Nat.lt_of_succ_lt_succ hi) with ⟨front, back, heq, hcount⟩
            exact ⟨a :: front, back, by rw [heq]; rfl, by rw [List.count_cons_self, hcount]⟩
      · rw [List.count_cons_of_ne hx] at hi
        rcases ih i hi with ⟨front, back, heq, hcount⟩
        exact ⟨x :: front, back, by rw [heq]; rfl, by rw [List.count_cons_of_ne hx, hcount]⟩

/-- A cut at an element is told by how often the element stands in front of it. -/
theorem eq_of_cut {α : Type} [BEq α] [LawfulBEq α] (a : α) (front : List α) :
    ∀ front' back back', front ++ a :: back = front' ++ a :: back' →
      front.count a = front'.count a → front = front' := by
  induction front with
  | nil =>
      intro front' back back' heq hcount
      -- The other cut is further to the right, and then the element stands in front of it.
      cases front' with
      | nil => rfl
      | cons y front' =>
          rw [← (List.cons.inj heq).1, List.count_cons_self, List.count_nil] at hcount
          exact nomatch hcount
  | cons x front ih =>
      intro front' back back' heq hcount
      cases front' with
      | nil =>
          rw [(List.cons.inj heq).1, List.count_cons_self, List.count_nil] at hcount
          exact nomatch hcount
      | cons y front' =>
          rcases List.cons.inj heq with ⟨hxy, hrest⟩
          rw [hxy, List.count_cons, List.count_cons] at hcount
          rw [hxy, ih front' back back' hrest (Nat.add_right_cancel hcount)]

/-! ## Lines of bytes -/

/-- Every line of a byte string is read by itself. -/
theorem segments_decodeTolerant (bs : List UInt8) :
    segments (Utf8.decodeTolerant bs) = (bs.splitOn 0x0A).map Utf8.decodeTolerant := by
  -- The induction takes away the first line.
  induction hn : bs.length using Nat.strongRecOn generalizing bs with
  | ind n ih =>
      have hmem : ∀ bs : List UInt8, 0x0A ∉ bs → '\n' ∉ Utf8.decodeTolerant bs := by
        intro bs hnot
        rw [← List.count_eq_zero, Utf8.count_decodeTolerant, List.count_eq_zero]
        exact hnot
      rw [segments_eq_splitOn]
      by_cases h : 0x0A ∈ bs
      · rcases List.eq_append_cons_of_mem h with ⟨front, back, heq, hfront⟩
        have hlt : back.length < n := by
          rw [← hn, heq, List.length_append, List.length_cons]
          omega
        rw [heq, Utf8.decodeTolerant_lineFeed,
          List.splitOn_append_cons_self_of_not_mem (hmem front hfront),
          List.splitOn_append_cons_self_of_not_mem hfront, List.map_cons, ← segments_eq_splitOn,
          ih back.length hlt back rfl]
      · rw [List.splitOn_eq_singleton h, List.splitOn_eq_singleton (hmem bs h)]
        rfl

/-- The lines of a file, as its bytes have them: the pieces between line feeds, without an empty
    last one. -/
def Source.rawLines (bytes : List UInt8) : List (List UInt8) :=
  if (bytes.splitOn 0x0A).getLast? = some [] then (bytes.splitOn 0x0A).dropLast
  else bytes.splitOn 0x0A

theorem splitLines_decodeTolerant (bytes : List UInt8) :
    splitLines (Utf8.decodeTolerant bytes) =
      (Source.rawLines bytes).map fun raw => withoutReturn (Utf8.decodeTolerant raw) := by
  -- The last line of the text is empty exactly where the last line of the bytes is.
  have hlast : (segments (Utf8.decodeTolerant bytes)).getLast? = some [] ↔
      (bytes.splitOn 0x0A).getLast? = some [] := by
    rw [segments_decodeTolerant, List.getLast?_map, Option.map_eq_some_iff]
    simp only [Utf8.decodeTolerant_eq_nil_iff, exists_eq_right]
  rw [splitLines, dropEmptyLast, Source.rawLines]
  by_cases h : (bytes.splitOn 0x0A).getLast? = some []
  · rw [if_pos h, if_pos (beq_iff_eq.mpr (hlast.mpr h)), segments_decodeTolerant,
      ← List.map_dropLast, List.map_map]
    rfl
  · rw [if_neg h, if_neg fun heq => h (hlast.mp (beq_iff_eq.mp heq)), segments_decodeTolerant,
      List.map_map]
    rfl

/-! ## Texts with the lines of a file -/

/-- A text has the lines of a byte string. It has as many line feeds, and what stands in front of
    each of them has been read from what stands in front of the one with the same number there. Its
    lines have been read from the lines of the bytes, and so the number of the line of an offset is
    the number of the line of the bytes that the offset lies in. -/
structure Source.KeepsLines (bytes : List UInt8) (text : List Char) : Prop where
  count : text.count '\n' = bytes.count 0x0A
  cut : ∀ front back, text = front ++ '\n' :: back → ∃ raw rest,
    bytes = raw ++ 0x0A :: rest ∧ raw.count 0x0A = front.count '\n' ∧
      front = Utf8.decodeTolerant raw
  lines : splitLines text = (rawLines bytes).map fun raw => withoutReturn (Utf8.decodeTolerant raw)
  line : ∀ o ≤ text.length, ∃ raw front back, (bytes.splitOn 0x0A)[lineNumberAt text o - 1]? =
    some raw ∧ IsSegmentAt text o front (Utf8.decodeTolerant raw) back

theorem Source.keepsLines_decodeTolerant (bytes : List UInt8) :
    KeepsLines bytes (Utf8.decodeTolerant bytes) := by
  have hcount := Utf8.count_decodeTolerant bytes
  refine ⟨hcount, fun front back hcut => ?_, splitLines_decodeTolerant bytes, fun o ho => ?_⟩
  · have hlt : front.count '\n' < bytes.count 0x0A := by
      rw [← hcount, hcut, List.count_append, List.count_cons_self]
      omega
    rcases exists_cut_of_lt_count 0x0A bytes _ hlt with ⟨raw, rest, heq, hraw⟩
    refine ⟨raw, rest, heq, hraw, ?_⟩
    rw [heq, Utf8.decodeTolerant_lineFeed] at hcut
    -- Both cuts of the text have the same number of line feeds in front, so they are one.
    refine (eq_of_cut '\n' _ _ _ _ hcut ?_).symm
    rw [Utf8.count_decodeTolerant, hraw]
  · rcases exists_isSegmentAt _ o ho with ⟨front, segment, back, hsegment, hat⟩
    rw [segments_decodeTolerant, List.getElem?_map, Option.map_eq_some_iff] at hat
    rcases hat with ⟨raw, hraw, heq⟩
    exact ⟨raw, front, back, hraw, heq ▸ hsegment⟩

theorem Source.read_eq_decodeTolerant (d : Disk) (path : String) (bytes : List UInt8)
    (hfile : d.fileContent path = .ok bytes) (hsize : bytes.length ≤ sizeLimit)
    (hzero : 0 ∉ bytes.take sniffLength) : read d path = .ok (Utf8.decodeTolerant bytes) := by
  rw [read, hfile]
  dsimp only
  rw [ofBytes, if_neg (Nat.not_lt.mpr hsize), if_neg fun h => hzero (List.contains_iff_mem.mp h)]

/-- What the scan of a file reports lies in the line of the bytes that has its number, and the
    lines that it counts are those of the bytes. -/
theorem lines_of_scanFile (d : Disk) (path : String) (bytes : List UInt8)
    (hread : Source.read d path = .ok (Utf8.decodeTolerant bytes)) (rules : List Rule)
    (shown : String) (s s' : Search) (hs : s.matcher.Faithful) (found : List Finding) (lines : Nat)
    (hrun : (scanFile d rules path shown).run.run s = (.ok (some (found, lines)), s')) :
    lines = (Source.rawLines bytes).length ∧ ∀ f ∈ found, 1 ≤ f.line ∧ ∃ raw,
      (bytes.splitOn 0x0A)[(f.line - 1).toNat]? = some raw ∧
        1 ≤ f.column ∧ f.column - 1 ≤ (Utf8.decodeTolerant raw).length := by
  rcases gives_scanFile d rules path shown s hs with ⟨s'', hgives, _⟩
  rw [hrun, Prod.mk.injEq] at hgives
  have hresult := hgives.1
  rw [fileResult, hread] at hresult
  rcases exists_of_bind_ok _ _ _ hresult.symm with ⟨found', hfound, heq⟩
  rw [Except.ok.injEq, Option.some.injEq, Prod.mk.injEq] at heq
  rcases heq with ⟨rfl, hlines⟩
  refine ⟨?_, fun f hf => ?_⟩
  · rw [← hlines, countLines, splitLines_decodeTolerant, List.length_map]
  · rcases exists_of_mem_fileFindings _ _ rules found' hfound f hf with
      ⟨rule, _, _, p, _, _, _, r, _, span, hspan, rfl⟩
    -- The finding stands in a line of the text, which has been read from the line of the bytes.
    have hstands := standsAt_of_matchAt rule p shown (Utf8.decodeTolerant bytes) span
      (r.within_of_findAll _ span hspan)
    rcases hstands.inLine with ⟨segment, hat, hcolumn⟩
    rw [segments_decodeTolerant, List.getElem?_map, Option.map_eq_some_iff] at hat
    rcases hat with ⟨raw, hraw, heq⟩
    exact ⟨hstands.isLine.1, raw, hraw, hstands.isColumn, heq ▸ hcolumn⟩

/-- Reading a source file keeps its text and its lines. A file that is neither too large nor binary
    is read without a note, what is UTF-8 is read as the text that it is the encoding of, and
    whatever the bytes are, the text has their lines. So the line of a finding is a line of the
    bytes, and a scan of the file counts the lines of the bytes. -/
theorem readSource_keeps_lines (d : Disk) (path : String) (bytes : List UInt8)
    (hfile : d.fileContent path = .ok bytes) (hsize : bytes.length ≤ Source.sizeLimit)
    (hzero : 0 ∉ bytes.take Source.sniffLength) :
    ∃ text, (∀ log, (readSource d path).run.run log = (.ok (some text), log)) ∧
      (∀ s, bytes = Utf8.encode s → text = s) ∧ Source.KeepsLines bytes text ∧
      countLines text = (Source.rawLines bytes).length ∧
      ∀ (rules : List Rule) (shown : String) (s s' : Search) (found : List Finding) (lines : Nat),
        s.matcher.Reached →
        (scanFile d rules path shown).run.run s = (.ok (some (found, lines)), s') →
          lines = (Source.rawLines bytes).length ∧ ∀ f ∈ found, 1 ≤ f.line ∧ ∃ raw,
            (bytes.splitOn 0x0A)[(f.line - 1).toNat]? = some raw ∧
              1 ≤ f.column ∧ f.column - 1 ≤ (Utf8.decodeTolerant raw).length := by
  have hread := Source.read_eq_decodeTolerant d path bytes hfile hsize hzero
  refine ⟨_, fun log => ?_, fun s hs => ?_, Source.keepsLines_decodeTolerant bytes, ?_,
    fun rules shown s s' found lines hs => ?_⟩
  · rw [readSource, hread]
    rfl
  · rw [hs, Utf8.decodeTolerant_encode]
  · rw [countLines, splitLines_decodeTolerant, List.length_map]
  · exact lines_of_scanFile d path bytes hread rules shown s s' hs.faithful found lines

/-- A file with a byte that no character has, two kinds of line ends, and a character that a line
    feed cuts short. -/
def brokenDisk : Disk where
  root := .folder [("a.py", .file [0x61, 0xFF, 0x0D, 0x0A, 0xE2, 0x82, 0x0A, 0x20, 0x78])]
  cwd := []

/-- The line feeds stand in the text of the file where they stand in the file, and so the letter is
    found on the third of its three lines. -/
theorem readSource_keeps_lines_broken :
    (readSource brokenDisk "/a.py").run.run [] =
        (.ok (some "a\uFFFD\r\n\uFFFD\n x".toList), []) ∧
      Source.KeepsLines [0x61, 0xFF, 0x0D, 0x0A, 0xE2, 0x82, 0x0A, 0x20, 0x78]
        "a\uFFFD\r\n\uFFFD\n x".toList ∧
      ∃ found lines s', (scanFile brokenDisk [letterPackage.letterRule] "/a.py" "a.py").run.run
          (World.ofDisk brokenDisk 0).scan.toSearch = (.ok (some (found, lines)), s') ∧
        lines = 3 ∧ found.map (·.line) = [3] := by
  rcases readSource_keeps_lines brokenDisk "/a.py" _ rfl (by decide) (by decide) with
    ⟨text, hread, _, hkeeps, _, hscan⟩
  have hrun : (readSource brokenDisk "/a.py").run.run [] =
      (.ok (some "a\uFFFD\r\n\uFFFD\n x".toList), []) := rfl
  have htext := (hread []).symm.trans hrun
  rw [Prod.mk.injEq, Except.ok.injEq, Option.some.injEq] at htext
  rw [htext.1] at hkeeps
  rcases exists_run_of_toOption_map
    ((scanFile brokenDisk [letterPackage.letterRule] "/a.py" "a.py").run.run
      (World.ofDisk brokenDisk 0).scan.toSearch)
    (Option.map fun r => r.1.map (·.line)) (some [3]) (by decide +kernel) with
    ⟨result, s', hrun', hlines⟩
  rw [Option.map_eq_some_iff] at hlines
  rcases hlines with ⟨⟨found, lines⟩, rfl, hlines⟩
  refine ⟨hrun, hkeeps, found, lines, s', hrun', ?_, hlines⟩
  rw [(hscan _ _ _ _ _ _ .start hrun').1]
  decide +kernel

end CodeAudit
