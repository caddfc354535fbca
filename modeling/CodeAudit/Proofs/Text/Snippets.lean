import CodeAudit.Proofs.Text.Lines

/-!
# Snippets

That the lines of a text, the number of a line and the lines around it agree.

Three functions count lines, each in its own way. The number of a line is one more than the line
feeds before an offset, the lines are the pieces between line feeds without an empty last one, and
a snippet is cut out between two numbers that are moved into the text first. The first two part only
at the very end of a text: behind a last line feed there is an offset, but no line any more. So the
number of a line may be one too large, and `lineNumberAt_eq_succ_iff` says exactly when.

Everything else goes through the piece that an offset lies in. `exists_line_of_offset` finds it in
the list of pieces, and joining the pieces again tells what stands in front of it and behind it.

## Main definitions

* `IsSegmentAt`: The piece of a text between line feeds that an offset lies in.

## Theorems

* `segments_eq_splitOn`: The pieces of a text are what it is split into at line feeds.
* `lineNumberAt_eq_succ_iff`: Where an offset has no line.
* `exists_isSegmentAt`: The line of an offset is the piece that the offset lies in.
* `snippet_eq_joinLines`: A snippet is made of the lines around a line.
* `snippet_of_offset`: The line of an offset, and the snippet around it.
-/

namespace CodeAudit

/-! ## Pieces -/

theorem segmentsFrom_eq_splitOnP (cs : List Char) :
    ∀ cur found, segmentsFrom cur found cs =
      found.reverse ++ List.splitOnPPrepend (· == '\n') cs cur := by
  induction cs with
  | nil =>
      intro cur found
      rw [segmentsFrom, List.reverse_cons]
      rfl
  | cons c rest ih =>
      intro cur found
      rw [segmentsFrom, List.splitOnPPrepend]
      by_cases hc : (c == '\n') = true
      · rw [if_pos hc, if_pos hc, ih, List.reverse_cons, List.append_assoc, List.singleton_append]
      · rw [if_neg hc, if_neg hc, ih]

/-- The pieces of a text are what it is split into at line feeds. -/
theorem segments_eq_splitOn (cs : List Char) : segments cs = cs.splitOn '\n' :=
  segmentsFrom_eq_splitOnP cs [] []

theorem joinLines_segments (cs : List Char) : joinLines (segments cs) = cs := by
  rw [segments_eq_splitOn]
  exact List.intercalate_splitOn '\n'

/-- Pieces without line feeds are read off what they are joined to. -/
theorem segments_joinLines (lines : List (List Char)) (h : ∀ s ∈ lines, '\n' ∉ s)
    (hne : lines ≠ []) : segments (joinLines lines) = lines := by
  rw [segments_eq_splitOn]
  exact List.splitOn_intercalate '\n' h hne

theorem not_mem_of_mem_segmentsFrom (cs : List Char) :
    ∀ cur found, '\n' ∉ cur → (∀ s ∈ found, '\n' ∉ s) →
      ∀ s ∈ segmentsFrom cur found cs, '\n' ∉ s := by
  have hput : ∀ (cur : List Char) (found : List (List Char)), '\n' ∉ cur →
      (∀ s ∈ found, '\n' ∉ s) → ∀ s ∈ cur.reverse :: found, '\n' ∉ s := by
    intro cur found hcur hfound
    rw [List.forall_mem_cons]
    exact ⟨fun hmem => hcur (List.mem_reverse.mp hmem), hfound⟩
  induction cs with
  | nil =>
      intro cur found hcur hfound s hs
      exact hput cur found hcur hfound s (List.mem_reverse.mp hs)
  | cons c rest ih =>
      intro cur found hcur hfound
      rw [segmentsFrom]
      by_cases hc : (c == '\n') = true
      · rw [if_pos hc]
        exact ih [] _ List.not_mem_nil (hput cur found hcur hfound)
      · rw [if_neg hc]
        refine ih (c :: cur) found ?_ hfound
        rw [List.mem_cons, not_or]
        exact ⟨fun heq => hc (beq_iff_eq.mpr heq.symm), hcur⟩

theorem not_mem_of_mem_segments (cs s : List Char) (h : s ∈ segments cs) : '\n' ∉ s :=
  not_mem_of_mem_segmentsFrom cs [] [] List.not_mem_nil (fun _ hs => absurd hs List.not_mem_nil) s h

/-- What pieces are joined to, seen from one of them. -/
theorem joinLines_around (above below : List (List Char)) (s : List Char) :
    joinLines (above ++ s :: below) =
      above.flatMap (· ++ ['\n']) ++ s ++ below.flatMap ('\n' :: ·) := by
  -- A line feed belongs to the piece in front of it above, and to the one behind it below.
  have hbelow : ∀ (below : List (List Char)) (s : List Char),
      joinLines (s :: below) = s ++ below.flatMap ('\n' :: ·) := by
    intro below
    induction below with
    | nil => exact fun s => (List.intercalate_singleton).trans (List.append_nil s).symm
    | cons t below ih =>
        intro s
        rw [joinLines, List.intercalate_cons_cons, ← joinLines, ih, List.flatMap_cons]
        simp only [List.append_assoc, List.cons_append, List.nil_append]
  induction above with
  | nil => exact hbelow below s
  | cons t above ih =>
      have hcons : joinLines (t :: (above ++ s :: below)) =
          t ++ ['\n'] ++ joinLines (above ++ s :: below) := by
        rw [joinLines, joinLines]
        cases above with
        | nil => rw [List.nil_append, List.intercalate_cons_cons]
        | cons u above => rw [List.cons_append, List.intercalate_cons_cons]
      rw [List.cons_append, hcons, ih, List.flatMap_cons]
      simp only [List.append_assoc]

/-! ## Counting lines -/

theorem length_segments (cs : List Char) : (segments cs).length = cs.count '\n' + 1 := by
  -- A piece is closed at each line feed, and one more at the end.
  rcases exists_read cs [] [] List.not_mem_nil with ⟨cur, found, hread, hcount, _, _⟩
  have hall := hread []
  rw [List.append_nil, segmentsFrom] at hall
  rw [segments, hall, List.length_reverse, List.length_cons, hcount, List.length_nil,
    Nat.zero_add]

/-- The last piece of a text is empty if the text is, or ends in a line feed. -/
theorem getLast?_segments_eq_nil_iff (cs : List Char) :
    (segments cs).getLast? = some [] ↔ cs = [] ∨ cs.getLast? = some '\n' := by
  rcases exists_read cs [] [] List.not_mem_nil with ⟨cur, found, hread, _, _, hcur⟩
  have hall := hread []
  rw [List.append_nil, segmentsFrom] at hall
  rw [segments, hall, List.reverse_cons, List.getLast?_concat, Option.some.injEq,
    List.reverse_eq_nil_iff, hcur, List.append_nil, ← @List.reverse_eq_nil_iff _ cs,
    ← List.head?_reverse]
  cases cs.reverse with
  | nil => simp
  | cons c rest => simp [List.takeWhile_cons]

theorem length_dropEmptyLast (pieces : List (List Char)) :
    (dropEmptyLast pieces).length =
      if pieces.getLast? = some [] then pieces.length - 1 else pieces.length := by
  rw [dropEmptyLast]
  by_cases h : pieces.getLast? = some []
  · rw [if_pos h, if_pos (beq_iff_eq.mpr h), List.length_dropLast]
  · rw [if_neg h, if_neg fun heq => h (beq_iff_eq.mp heq)]

/-- A text has as many lines as line feeds, and one more if something stands behind the last. -/
theorem countLines_eq (cs : List Char) :
    countLines cs =
      if cs = [] ∨ cs.getLast? = some '\n' then cs.count '\n' else cs.count '\n' + 1 := by
  rw [countLines, splitLines, List.length_map, length_dropEmptyLast, length_segments]
  by_cases h : cs = [] ∨ cs.getLast? = some '\n'
  · rw [if_pos h, if_pos ((getLast?_segments_eq_nil_iff cs).mpr h), Nat.add_sub_cancel]
  · rw [if_neg h, if_neg fun heq => h ((getLast?_segments_eq_nil_iff cs).mp heq)]

/-- Behind the last line feed of a text that ends in one, no line feed is left to be counted. -/
theorem count_take_eq_iff (cs : List Char) (o : Nat) (h : o ≤ cs.length)
    (hends : cs = [] ∨ cs.getLast? = some '\n') :
    (cs.take o).count '\n' = cs.count '\n' ↔ o = cs.length := by
  have hsplit : cs.count '\n' = (cs.take o).count '\n' + (cs.drop o).count '\n' := by
    rw [← List.count_append, List.take_append_drop]
  constructor
  · intro hcount
    by_contra hne
    have hlt : o < cs.length := Nat.lt_of_le_of_ne h hne
    -- Something is left behind the offset, and its last character is the last of the text.
    have hlast : (cs.drop o).getLast? = some '\n' := by
      rw [List.getLast?_drop, if_neg (Nat.not_le.mpr hlt)]
      exact hends.resolve_left fun hnil => absurd hlt (by rw [hnil]; exact Nat.not_lt_zero o)
    have hpos := List.count_pos_iff.mpr (List.mem_of_getLast? hlast)
    omega
  · intro heq
    rw [heq, List.take_length]

theorem lineNumberAt_le (cs : List Char) (o : Nat) :
    lineNumberAt cs o ≤ countLines cs + 1 := by
  have hle := (List.take_sublist o cs).count_le '\n'
  rw [lineNumberAt_ofNat, countLines_eq]
  split <;> omega

/-- An offset has no line exactly at the end of a text that is empty or ends in a line feed. -/
theorem lineNumberAt_eq_succ_iff (cs : List Char) (o : Nat) (h : o ≤ cs.length) :
    lineNumberAt cs o = countLines cs + 1 ↔
      o = cs.length ∧ (cs = [] ∨ cs.getLast? = some '\n') := by
  rw [lineNumberAt_ofNat, countLines_eq]
  by_cases hends : cs = [] ∨ cs.getLast? = some '\n'
  · rw [if_pos hends, Nat.add_right_cancel_iff, count_take_eq_iff cs o h hends]
    exact ⟨fun heq => ⟨heq, hends⟩, And.left⟩
  · have hle := (List.take_sublist o cs).count_le '\n'
    rw [if_neg hends]
    exact ⟨fun heq => absurd heq (by omega), fun heq => absurd heq.2 hends⟩

/-! ## The line of an offset -/

/-- A piece of a text between line feeds, and what stands in front of it and behind it. An offset
    lies in it if it is one of the piece, or that of the line feed behind it. -/
structure IsSegmentAt (cs : List Char) (o : Nat) (front segment back : List Char) : Prop where
  cut : cs = front ++ segment ++ back
  whole : '\n' ∉ segment
  starts : front = [] ∨ front.getLast? = some '\n'
  ends : back = [] ∨ back.head? = some '\n'
  inside : front.length ≤ o ∧ o ≤ front.length + segment.length

/-- An offset lies in the piece with the number of its line. -/
theorem exists_isSegmentAt (cs : List Char) (o : Nat) (h : o ≤ cs.length) :
    ∃ front segment back, IsSegmentAt cs o front segment back ∧
      (segments cs)[lineNumberAt cs o - 1]? = some segment := by
  rcases exists_line_of_offset cs o h with ⟨above, s, below, hcut, hcount, hinside, hoffset⟩
  have hline : lineNumberAt cs o - 1 = above.length := by
    rw [lineNumberAt_ofNat, hcount, Nat.add_sub_cancel]
  have hlength : (above.flatMap (· ++ ['\n'])).length = lengthWithFeeds above := rfl
  refine ⟨above.flatMap (· ++ ['\n']), s, below.flatMap ('\n' :: ·), ⟨?_, ?_, ?_, ?_, ?_⟩, ?_⟩
  -- The text is its pieces joined again, seen from the one with the offset.
  · exact (joinLines_segments cs).symm.trans ((congrArg joinLines hcut).trans
      (joinLines_around above below s))
  · refine not_mem_of_mem_segments cs s ?_
    rw [hcut]
    exact List.mem_append_right above List.mem_cons_self
  -- In front stands nothing, or a piece above with its line feed.
  · rcases List.eq_nil_or_concat above with hnil | ⟨front, last, hlast⟩
    · exact Or.inl (by rw [hnil, List.flatMap_nil])
    · refine Or.inr ?_
      rw [hlast, List.concat_eq_append, List.flatMap_append, List.flatMap_singleton,
        ← List.append_assoc, List.getLast?_concat]
  · cases below with
    | nil => exact Or.inl rfl
    | cons t below => exact Or.inr rfl
  · rw [hlength]
    omega
  · rw [hline, hcut, List.getElem?_append_right (Nat.le_refl _), Nat.sub_self]
    rfl

/-- A line is left out of the lines only if it is the empty one at the end. -/
theorem getElem?_dropEmptyLast (pieces : List (List Char)) (i : Nat)
    (h : i < (dropEmptyLast pieces).length) : (dropEmptyLast pieces)[i]? = pieces[i]? := by
  rw [dropEmptyLast] at h ⊢
  by_cases hempty : (pieces.getLast? == some []) = true
  · rw [if_pos hempty, List.length_dropLast] at h
    rw [if_pos hempty, List.getElem?_dropLast, if_pos h]
  · rw [if_neg hempty]

/-- A line differs from its piece by one carriage return, if the piece ends in one. -/
theorem cases_of_withoutReturn (s : List Char) :
    s = withoutReturn s ++ ['\r'] ∨ s = withoutReturn s ∧ s.getLast? ≠ some '\r' := by
  rw [withoutReturn]
  by_cases h : s.getLast? = some '\r'
  · rw [if_pos (beq_iff_eq.mpr h)]
    rcases List.getLast?_eq_some_iff.mp h with ⟨front, hfront⟩
    exact Or.inl (by rw [hfront, List.dropLast_concat])
  · rw [if_neg fun heq => h (beq_iff_eq.mp heq)]
    exact Or.inr ⟨rfl, h⟩

theorem getElem?_splitLines (cs : List Char) (i : Nat) (h : i < countLines cs) :
    (splitLines cs)[i]? = (segments cs)[i]?.map withoutReturn := by
  rw [countLines, splitLines, List.length_map] at h
  rw [splitLines, List.getElem?_map, getElem?_dropEmptyLast _ i h]

theorem not_mem_of_mem_splitLines (cs line : List Char) (h : line ∈ splitLines cs) :
    '\n' ∉ line := by
  -- A line is a piece, or what is left of one, and pieces hold no line feed.
  rcases List.mem_iff_getElem?.mp h with ⟨i, hi⟩
  have hlt : i < countLines cs := (List.getElem?_eq_some_iff.mp hi).1
  rw [getElem?_splitLines cs i hlt, Option.map_eq_some_iff] at hi
  rcases hi with ⟨s, hs, heq⟩
  have hpiece := not_mem_of_mem_segments cs s (List.mem_of_getElem? hs)
  rw [← heq]
  rcases cases_of_withoutReturn s with hreturn | ⟨hsame, _⟩
  · exact fun hmem => hpiece (hreturn ▸ List.mem_append_left _ hmem)
  · exact hsame ▸ hpiece

/-! ## Snippets -/

theorem slice_ofNat {α : Type} (xs : List α) (a b : Nat) : slice xs a b = (xs.take b).drop a := by
  simp only [slice, Int.not_lt.mpr (Int.natCast_nonneg _), if_false, Int.toNat_natCast]

/-- The elements of a list between two numbers, counted from one. -/
theorem map_some_drop_take {α : Type} (xs : List α) (a b : Nat) (h : b ≤ xs.length) :
    ((xs.take b).drop a).map some = (List.range' (a + 1) (b - a)).map fun n => xs[n - 1]? := by
  refine List.ext_getElem? fun i => ?_
  rw [List.getElem?_map, List.getElem?_map, List.getElem?_drop]
  -- Beyond either end there is nothing on both sides.
  by_cases hi : i < b - a
  · have hlt : a + i < xs.length := by omega
    have hnumber : a + 1 + i - 1 = a + i := by omega
    rw [List.getElem?_range' hi, List.getElem?_take_of_lt (by omega), Option.map_some, Nat.one_mul,
      hnumber, List.getElem?_eq_getElem hlt, Option.map_some]
  · rw [List.getElem?_eq_none (by rw [List.length_take]; omega),
      List.getElem?_eq_none (by rw [List.length_range']; omega)]
    rfl

/-- A snippet is made of the lines from `k` lines before a line to `k` lines after it, as far as
    there are lines. -/
theorem snippet_eq_joinLines (cs : List Char) (line k : Nat) :
    snippet cs line k =
      joinLines (((splitLines cs).take (min (countLines cs) (line + k))).drop (line - k - 1)) := by
  -- Both numbers are moved into the text, so they may be told without negative numbers.
  have hfirst : max 0 ((line : Int) - k - 1) = ((line - k - 1 : Nat) : Int) := by omega
  have hlast : min ((splitLines cs).length : Int) (line + k) =
      ((min (countLines cs) (line + k) : Nat) : Int) := by
    rw [countLines]
    omega
  rw [snippet]
  simp only [hfirst, hlast, slice_ofNat]

/-- The number of the line of an offset, its line and the snippet around it agree. Only at the very
    end of a text an offset may be behind the last line. -/
theorem snippet_of_offset (cs : List Char) (o k : Nat) (h : o ≤ cs.length) :
    1 ≤ lineNumberAt cs o ∧ lineNumberAt cs o ≤ countLines cs + 1 ∧
    (lineNumberAt cs o = countLines cs + 1 ↔
      o = cs.length ∧ (cs = [] ∨ cs.getLast? = some '\n')) ∧
    (lineNumberAt cs o ≤ countLines cs → ∃ front segment back line,
      IsSegmentAt cs o front segment back ∧
        (splitLines cs)[lineNumberAt cs o - 1]? = some line ∧
        (segment = line ++ ['\r'] ∨ segment = line ∧ segment.getLast? ≠ some '\r')) ∧
    ∃ window, snippet cs (lineNumberAt cs o) k = List.intercalate ['\n'] window ∧
      window.map some =
        (List.range' (max 1 (lineNumberAt cs o - k)) (min (countLines cs) (lineNumberAt cs o + k) +
          1 - max 1 (lineNumberAt cs o - k))).map (fun n => (splitLines cs)[n - 1]?) ∧
      (lineNumberAt cs o ≤ countLines cs →
        segments (snippet cs (lineNumberAt cs o) k) = window ∧
        window[min k (lineNumberAt cs o - 1)]? = (splitLines cs)[lineNumberAt cs o - 1]?) := by
  have hpos : 1 ≤ lineNumberAt cs o := Nat.le_add_left 1 _
  have hsnippet := snippet_eq_joinLines cs (lineNumberAt cs o) k
  refine ⟨hpos, lineNumberAt_le cs o, lineNumberAt_eq_succ_iff cs o h, fun hline => ?_, _, hsnippet,
    ?_, fun hline => ?_⟩
  · rcases exists_isSegmentAt cs o h with ⟨front, segment, back, hsegment, hat⟩
    refine ⟨front, segment, back, withoutReturn segment, hsegment, ?_,
      cases_of_withoutReturn segment⟩
    rw [getElem?_splitLines cs _ (by omega), hat, Option.map_some]
  · have hwindow := map_some_drop_take (splitLines cs) (lineNumberAt cs o - k - 1)
      (min (countLines cs) (lineNumberAt cs o + k)) (Nat.min_le_left _ _)
    have hfirst : lineNumberAt cs o - k - 1 + 1 = max 1 (lineNumberAt cs o - k) := by omega
    have hcount : min (countLines cs) (lineNumberAt cs o + k) - (lineNumberAt cs o - k - 1) =
        min (countLines cs) (lineNumberAt cs o + k) + 1 - max 1 (lineNumberAt cs o - k) := by omega
    rw [hfirst, hcount] at hwindow
    exact hwindow
  · -- The line itself is there, at the number of lines in front of it.
    have hat : (((splitLines cs).take (min (countLines cs) (lineNumberAt cs o + k))).drop
        (lineNumberAt cs o - k - 1))[min k (lineNumberAt cs o - 1)]? =
          (splitLines cs)[lineNumberAt cs o - 1]? := by
      have hindex : lineNumberAt cs o - k - 1 + min k (lineNumberAt cs o - 1) =
          lineNumberAt cs o - 1 := by omega
      rw [List.getElem?_drop, hindex, List.getElem?_take_of_lt (by omega)]
    have hlt : lineNumberAt cs o - 1 < (splitLines cs).length := by
      rw [← countLines]
      omega
    refine ⟨?_, hat⟩
    rw [hsnippet]
    refine segments_joinLines _ (fun line hmem => ?_) fun hnil => ?_
    · exact not_mem_of_mem_splitLines cs line (List.mem_of_mem_take (List.mem_of_mem_drop hmem))
    · rw [hnil, List.getElem?_nil, List.getElem?_eq_getElem hlt] at hat
      exact absurd hat (Option.some_ne_none _).symm

/-- The second line feed of a text with two line ends of different kinds ends the second line. -/
theorem snippet_of_offset_last :
    4 ≤ "a\r\nb\n".toList.length ∧ lineNumberAt "a\r\nb\n".toList (4 : Nat) = 2 ∧
      countLines "a\r\nb\n".toList = 2 ∧
      lineNumberAt "a\r\nb\n".toList (5 : Nat) = countLines "a\r\nb\n".toList + 1 ∧
      ∃ window, snippet "a\r\nb\n".toList 2 (0 : Nat) = List.intercalate ['\n'] window ∧
        segments (snippet "a\r\nb\n".toList 2 (0 : Nat)) = window ∧
        window[0]? = some ['b'] := by
  have hlength : 4 ≤ "a\r\nb\n".toList.length := by decide
  have hline : lineNumberAt "a\r\nb\n".toList (4 : Nat) = 2 := by decide
  have hlines : countLines "a\r\nb\n".toList = 2 := by decide
  rcases snippet_of_offset "a\r\nb\n".toList 4 0 hlength with ⟨_, _, _, _, window, hjoin, _, hin⟩
  rcases hin (by rw [hline, hlines]) with ⟨hsegments, hat⟩
  rw [hline] at hjoin hsegments hat
  have hbehind := (snippet_of_offset "a\r\nb\n".toList 5 0 (by decide)).2.2.1.mpr
    ⟨by decide, Or.inr (by decide)⟩
  refine ⟨hlength, hline, hlines, hbehind, window, hjoin, hsegments, ?_⟩
  rw [Nat.zero_min] at hat
  exact hat.trans (by decide)

end CodeAudit
