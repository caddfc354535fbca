import CodeAudit.Text.Lines
import Mathlib.Data.List.TakeWhile

/-!
# Lines and Offsets

That the line and the column of an offset lead back to it.

The line is found by counting line feeds, the column by looking for the last one, and nothing
ties the two to the pieces of the text but the order in which it is read. So the text is cut at the
offset, and what has been read there is compared with both: there are as many whole pieces as line
feeds have been counted, and the piece being read began behind the last of them. `exists_read` says
so by induction on what has been read, and `exists_line_of_offset` draws the line apart.

The rest of the text can only add to the piece being read, so the offset does not pass the end of
its line.

## Main definitions

* `lineStart`: The offset at which a line starts.
* `offsetOf`: The offset of a line and a column.
* `StandsAt`: A text stands at a line and a column of another.

## Theorems

* `exists_read`: What has been read of a text in front of an offset.
* `offsetOf_position`: The position of an offset leads back to it.
* `standsAt_position`: A part of a text stands at the position of its offset.
-/

namespace CodeAudit

/-! ## Reading a text -/

/-- The number of characters of pieces, each with its line feed. -/
def lengthWithFeeds (pieces : List (List Char)) : Nat :=
  (pieces.flatMap fun s => s ++ ['\n']).length

/-- The offset at which a line starts, where `n` lines are before it. -/
def lineStart (cs : List Char) (n : Nat) : Nat :=
  lengthWithFeeds ((segments cs).take n)

/-- The offset of a line and a column, both counted from one. -/
def offsetOf (cs : List Char) (line column : Int) : Int :=
  lineStart cs (line - 1).toNat + (column - 1)

/-- The number of characters between an offset and the line feed before it. -/
def sinceFeed (p : List Char) : Nat :=
  (p.reverse.takeWhile (· != '\n')).length

theorem lengthWithFeeds_cons (s : List Char) (pieces : List (List Char)) :
    lengthWithFeeds (s :: pieces) = s.length + 1 + lengthWithFeeds pieces := by
  rw [lengthWithFeeds, List.flatMap_cons, List.length_append, List.length_append,
    List.length_singleton, lengthWithFeeds]

theorem lengthWithFeeds_reverse (pieces : List (List Char)) :
    lengthWithFeeds pieces.reverse = lengthWithFeeds pieces :=
  (pieces.reverse_perm.flatMap_right _).length_eq

/-- The rest of a text adds to the piece being read and puts pieces behind it. -/
theorem exists_segmentsFrom (rest : List Char) :
    ∀ cur found, ∃ more behind,
      segmentsFrom cur found rest = found.reverse ++ (cur.reverse ++ more) :: behind := by
  induction rest with
  | nil =>
      intro cur found
      refine ⟨[], [], ?_⟩
      rw [segmentsFrom, List.reverse_cons, List.append_nil]
  | cons c rest ih =>
      intro cur found
      rw [segmentsFrom]
      split
      -- At a line feed the piece is closed, and the rest begins with one that is empty.
      · rcases ih [] (cur.reverse :: found) with ⟨more, behind, heq⟩
        refine ⟨[], more :: behind, ?_⟩
        rw [heq, List.reverse_cons, List.append_assoc, List.append_nil]
        rfl
      · rcases ih (c :: cur) found with ⟨more, behind, heq⟩
        refine ⟨c :: more, behind, ?_⟩
        rw [heq, List.reverse_cons, List.append_assoc]
        rfl

-- The induction is on what has been read, with the pieces found before it as they are. The piece
-- being read has no line feed, so it is what is left behind the last one.
theorem exists_read (p : List Char) :
    ∀ cur found, '\n' ∉ cur → ∃ cur' found',
      (∀ rest, segmentsFrom cur found (p ++ rest) = segmentsFrom cur' found' rest) ∧
        found'.length = found.length + p.count '\n' ∧
        lengthWithFeeds found' + cur'.length =
          lengthWithFeeds found + cur.length + p.length ∧
        cur' = (p.reverse ++ cur).takeWhile (· != '\n') := by
  induction p with
  | nil =>
      intro cur found hcur
      refine ⟨cur, found, fun _ => rfl, rfl, rfl, ?_⟩
      rw [List.reverse_nil, List.nil_append]
      refine (List.takeWhile_eq_self_iff.mpr fun c hc => ?_).symm
      rw [bne_iff_ne]
      exact fun heq => hcur (heq ▸ hc)
  | cons c p ih =>
      intro cur found hcur
      by_cases hc : c = '\n'
      · subst hc
        rcases ih [] (cur.reverse :: found) List.not_mem_nil with
          ⟨cur', found', hread, hcount, hlength, hcur'⟩
        refine ⟨cur', found', fun rest => ?_, ?_, ?_, ?_⟩
        · rw [List.cons_append, segmentsFrom, if_pos (beq_self_eq_true _), hread]
        · rw [hcount, List.length_cons, List.count_cons_self]
          omega
        · rw [hlength, lengthWithFeeds_cons, List.length_reverse, List.length_cons,
            List.length_nil]
          omega
        · -- What stood before the line feed plays no part any more.
          rw [hcur', List.reverse_cons, List.append_assoc, List.append_nil,
            List.takeWhile_append]
          split
          · rename_i hall
            rw [List.singleton_append, List.takeWhile_cons_of_neg (by decide), List.append_nil]
            exact (List.takeWhile_prefix _).eq_of_length hall
          · rfl
      · have hcur' : '\n' ∉ c :: cur := by
          rw [List.mem_cons, not_or]
          exact ⟨Ne.symm hc, hcur⟩
        rcases ih (c :: cur) found hcur' with ⟨cur', found', hread, hcount, hlength, heq⟩
        refine ⟨cur', found', fun rest => ?_, ?_, ?_, ?_⟩
        · rw [List.cons_append, segmentsFrom, if_neg (by rw [beq_iff_eq]; exact hc), hread]
        · rw [hcount, List.count_cons_of_ne hc]
        · rw [hlength, List.length_cons, List.length_cons]
          omega
        · rw [heq, List.reverse_cons, List.append_assoc]
          rfl

/-- The line of an offset: as many lines are before it as there are line feeds before the offset,
    and the offset lies in it as far behind its start as behind the last line feed. -/
theorem exists_line_of_offset (cs : List Char) (o : Nat) (h : o ≤ cs.length) :
    ∃ above line below, segments cs = above ++ line :: below ∧
      above.length = (cs.take o).count '\n' ∧ sinceFeed (cs.take o) ≤ line.length ∧
        lengthWithFeeds above + sinceFeed (cs.take o) = o := by
  rcases exists_read (cs.take o) [] [] List.not_mem_nil with
    ⟨cur, found, hread, hcount, hlength, hcur⟩
  rcases exists_segmentsFrom (cs.drop o) cur found with ⟨more, below, heq⟩
  rw [List.append_nil] at hcur
  -- What is being read at the offset is what stands since the last line feed.
  have hsince : cur.length = sinceFeed (cs.take o) := by rw [hcur, sinceFeed]
  refine ⟨found.reverse, cur.reverse ++ more, below, ?_, ?_, ?_, ?_⟩
  · rw [segments, ← heq, ← hread, List.take_append_drop]
  · rw [List.length_reverse, hcount, List.length_nil, Nat.zero_add]
  · rw [← hsince, List.length_append, List.length_reverse]
    exact Nat.le_add_right _ _
  · rw [lengthWithFeeds_reverse, ← hsince, hlength, List.length_take_of_le h]
    exact Nat.zero_add o

/-! ## Positions -/

theorem before_ofNat (cs : List Char) (o : Nat) : before cs o = cs.take o := by
  rw [before, if_neg (Int.not_lt.mpr (Int.natCast_nonneg o)), Int.toNat_natCast]

theorem lineNumberAt_ofNat (cs : List Char) (o : Nat) :
    lineNumberAt cs o = (cs.take o).count '\n' + 1 := by
  rw [lineNumberAt, before_ofNat]

theorem columnNumberAt_ofNat (cs : List Char) (o : Nat) (h : o ≤ cs.length) :
    columnNumberAt cs o = sinceFeed (cs.take o) + 1 := by
  rw [columnNumberAt, before_ofNat, lastLineFeed, List.length_take_of_le h, sinceFeed]
  simp only [Int.ofNat_eq_natCast]
  omega

/-- A text stands at a line and a column of another text. The line is one of that text, and the
    place lies in the text and does not pass the end of the line. -/
structure StandsAt (part cs : List Char) (line column : Int) : Prop where
  isLine : 1 ≤ line ∧ line ≤ (segments cs).length
  isColumn : 1 ≤ column
  inLine : ∃ s, (segments cs)[(line - 1).toNat]? = some s ∧ column - 1 ≤ s.length
  inText : 0 ≤ offsetOf cs line column ∧ offsetOf cs line column ≤ cs.length
  isPart : (cs.drop (offsetOf cs line column).toNat).take part.length = part

/-- The position of an offset leads back to it. -/
theorem offsetOf_position (cs : List Char) (o : Nat) (h : o ≤ cs.length) :
    offsetOf cs (lineNumberAt cs o) (columnNumberAt cs o) = o := by
  rcases exists_line_of_offset cs o h with ⟨above, line, below, hcut, hcount, _, hoffset⟩
  have hline : ((lineNumberAt cs o : Int) - 1).toNat = above.length := by
    rw [lineNumberAt_ofNat, ← hcount]
    omega
  rw [offsetOf, hline, columnNumberAt_ofNat cs o h, lineStart, hcut, List.take_left]
  omega

/-- A part of a text stands at the position of its offset. -/
theorem standsAt_position (cs part : List Char) (o : Nat) (h : o ≤ cs.length)
    (hpart : (cs.drop o).take part.length = part) :
    StandsAt part cs (lineNumberAt cs o) (columnNumberAt cs o) := by
  rcases exists_line_of_offset cs o h with ⟨above, line, below, hcut, hcount, hinside, _⟩
  have hline := lineNumberAt_ofNat cs o
  have hcolumn := columnNumberAt_ofNat cs o h
  have hoffset := offsetOf_position cs o h
  have hlength : (segments cs).length = above.length + (below.length + 1) := by
    rw [hcut, List.length_append, List.length_cons]
  refine ⟨⟨by omega, by omega⟩, by omega, ⟨line, ?_, by omega⟩, ?_, ?_⟩
  · have hindex : ((lineNumberAt cs o : Int) - 1).toNat = above.length := by omega
    rw [hindex, hcut, List.getElem?_append_right (Nat.le_refl _), Nat.sub_self]
    rfl
  · rw [hoffset]
    exact ⟨Int.natCast_nonneg o, by omega⟩
  · rw [hoffset, Int.toNat_natCast]
    exact hpart

end CodeAudit
