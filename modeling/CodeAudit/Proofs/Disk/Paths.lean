import CodeAudit.Disk

/-!
# Paths of Names in Folders

What the path of a name in a folder looks like.

A path is built by joining a name to the path of its folder, and it is followed step by
step. The two fit together only if the path of the folder does not end in a slash or a dot:
then the steps of the joined path are those of the folder and the name behind them, which is
`stepsOf_join`. `EndsInName` says so, and it holds of every path that was itself built by
joining a name.

## Main definitions

* `Path.IsName`: A name that stands for something in a folder.
* `Disk.EndsInName`: A path whose last piece is a name.

## Theorems

* `Path.pieces_eq_splitOn`: The pieces of a path are what it is split into at slashes.
* `Path.pieces_slash`: What stands behind a slash is taken apart by itself.
* `Disk.endsInName_join`: A joined name is at the end of the path.
* `Disk.stepsOf_join`: The last step of a joined path is the name.
* `Disk.parent_join`: The folder of a joined path is the path that was joined to.
-/

namespace CodeAudit

namespace Path

/-- A name that stands for something in a folder: it is not empty, has no slash and is not
    one of the two names for places on the way. -/
structure IsName (n : List Char) : Prop where
  ne_nil : n ≠ []
  noSlash : '/' ∉ n
  ne_here : n ≠ here
  ne_up : n ≠ up

instance (n : List Char) : Decidable (IsName n) :=
  decidable_of_iff (n ≠ [] ∧ '/' ∉ n ∧ n ≠ here ∧ n ≠ up)
    ⟨fun h => ⟨h.1, h.2.1, h.2.2.1, h.2.2.2⟩, fun h => ⟨h.1, h.2, h.3, h.4⟩⟩

theorem IsName.not_absolute {n : List Char} (h : IsName n) : isAbsolute n = false := by
  cases n with
  | nil => rfl
  | cons c n =>
      have hc : c ≠ '/' := fun heq => h.noSlash (heq ▸ List.mem_cons_self)
      rw [isAbsolute, List.head?_cons]
      exact beq_eq_false_iff_ne.mpr (fun heq => hc (Option.some.inj heq))

theorem piecesFrom_eq_splitOnP (p : List Char) :
    ∀ cur, piecesFrom cur p = List.splitOnPPrepend (· == '/') p cur := by
  induction p with
  | nil => exact fun _ => rfl
  | cons c p ih =>
      intro cur
      rw [piecesFrom, List.splitOnPPrepend, ih, ih]

/-- The pieces of a path are what it is split into at slashes. -/
theorem pieces_eq_splitOn (p : List Char) : pieces p = p.splitOn '/' :=
  piecesFrom_eq_splitOnP p []

theorem piecesFrom_of_noSlash (n : List Char) (h : '/' ∉ n) :
    ∀ cur, piecesFrom cur n = [cur.reverse ++ n] := by
  induction n with
  | nil =>
      intro cur
      rw [piecesFrom, List.append_nil]
  | cons c n ih =>
      intro cur
      rw [List.mem_cons, not_or] at h
      rw [piecesFrom, if_neg (by rw [beq_iff_eq]; exact Ne.symm h.1), ih h.2,
        List.reverse_cons, List.append_assoc]
      rfl

theorem pieces_of_noSlash (n : List Char) (h : '/' ∉ n) : pieces n = [n] := by
  rw [pieces, piecesFrom_of_noSlash n h]
  rfl

/-- What stands behind a slash does not change the pieces before it. -/
theorem piecesFrom_append (p rest : List Char) :
    ∀ cur, piecesFrom cur (p ++ '/' :: rest) = piecesFrom cur p ++ pieces rest := by
  induction p with
  | nil =>
      intro cur
      rfl
  | cons c p ih =>
      intro cur
      rw [List.cons_append, piecesFrom, piecesFrom]
      by_cases hc : (c == '/') = true
      · rw [if_pos hc, if_pos hc, ih, List.cons_append]
      · rw [if_neg hc, if_neg hc, ih]

theorem pieces_slash (front back : List Char) :
    pieces (front ++ '/' :: back) = pieces front ++ pieces back :=
  piecesFrom_append front back []

theorem pieces_append (p n : List Char) (h : '/' ∉ n) :
    pieces (p ++ '/' :: n) = pieces p ++ [n] := by
  rw [pieces_slash, pieces_of_noSlash n h]

theorem piecesFrom_ne_nil (p : List Char) : ∀ cur, piecesFrom cur p ≠ [] := by
  induction p with
  | nil => exact fun _ => List.cons_ne_nil _ _
  | cons c p ih =>
      intro cur
      rw [piecesFrom]
      split
      · exact List.cons_ne_nil _ _
      · exact ih _

theorem pieces_concat_slash (p : List Char) : pieces (p ++ ['/']) = pieces p ++ [[]] := by
  rw [pieces, piecesFrom_append]
  rfl

theorem noSlash_of_mem_pieces (p n : List Char) (h : n ∈ pieces p) : '/' ∉ n := by
  have hpieces : ∀ (p cur : List Char), '/' ∉ cur → ∀ n ∈ piecesFrom cur p, '/' ∉ n := by
    intro p
    induction p with
    | nil =>
        intro cur hcur n hn
        rw [piecesFrom, List.mem_singleton] at hn
        rw [hn, List.mem_reverse]
        exact hcur
    | cons c p ih =>
        intro cur hcur n hn
        rw [piecesFrom] at hn
        by_cases hc : (c == '/') = true
        · rw [if_pos hc, List.mem_cons] at hn
          rcases hn with heq | hn
          · rw [heq, List.mem_reverse]
            exact hcur
          · exact ih [] List.not_mem_nil n hn
        · rw [if_neg hc] at hn
          refine ih (c :: cur) ?_ n hn
          rw [List.mem_cons, not_or]
          exact ⟨fun heq => hc (beq_iff_eq.mpr heq.symm), hcur⟩
  exact hpieces p [] List.not_mem_nil n h

/-- The pieces of a path that is joined come last. An empty piece before them, from a slash at the
    end of the path that is joined to or from an empty path, is left out. -/
theorem exists_pieces_join (p q : List Char) (hq : isAbsolute q = false) :
    ∃ ps, (pieces p = ps ∨ pieces p = ps ++ [[]]) ∧ pieces (join p q) = ps ++ pieces q := by
  rw [join, hq]
  simp only [Bool.false_eq_true, if_false]
  by_cases hjoined : (p.isEmpty || p.getLast? == some '/') = true
  · rw [if_pos hjoined]
    rcases Bool.or_eq_true_iff.mp hjoined with hnil | hslash
    · rw [List.isEmpty_iff.mp hnil, List.nil_append]
      exact ⟨[], Or.inr rfl, rfl⟩
    · rcases List.getLast?_eq_some_iff.mp (beq_iff_eq.mp hslash) with ⟨front, hfront⟩
      refine ⟨pieces front, Or.inr ?_, ?_⟩
      · rw [hfront, pieces_concat_slash]
      · rw [hfront, List.append_assoc, List.singleton_append, pieces_slash]
  · rw [if_neg hjoined, pieces_slash]
    exact ⟨pieces p, Or.inl rfl, rfl⟩

theorem isAbsolute_join (p q : List Char) (hq : isAbsolute q = false) :
    isAbsolute (join p q) = isAbsolute p := by
  rw [join, hq]
  simp only [Bool.false_eq_true, if_false]
  cases p with
  | nil => exact hq
  | cons c p =>
      by_cases hjoined : ((c :: p).isEmpty || (c :: p).getLast? == some '/') = true
      · rw [if_pos hjoined]
        rfl
      · rw [if_neg hjoined]
        rfl

end Path

namespace Disk

/-- A path whose last piece is a name. -/
def EndsInName (path : String) : Prop :=
  ∃ n, (Path.pieces path.toList).getLast? = some n ∧ Path.IsName n

theorem EndsInName.not_slash {path : String} (h : EndsInName path) :
    path.toList.getLast? ≠ some '/' := by
  intro hslash
  rcases h with ⟨n, hlast, hn⟩
  rcases List.getLast?_eq_some_iff.mp hslash with ⟨front, hfront⟩
  rw [hfront, Path.pieces_concat_slash, List.getLast?_append, List.getLast?_singleton,
    Option.some_or, Option.some.injEq] at hlast
  exact hn.ne_nil hlast.symm

theorem EndsInName.ne_nil {path : String} (h : EndsInName path) : path.toList ≠ [] := by
  intro hnil
  rcases h with ⟨n, hlast, hn⟩
  rw [hnil] at hlast
  exact hn.ne_nil (Option.some.inj hlast).symm

/-- A name is joined to a path that ends in one by a slash. -/
theorem join_toList (path : String) (h : EndsInName path) (n : String)
    (hn : Path.IsName n.toList) : (join path n).toList = path.toList ++ '/' :: n.toList := by
  have hempty : path.toList.isEmpty = false := by
    rw [List.isEmpty_eq_false_iff]
    exact h.ne_nil
  have hslash : (path.toList.getLast? == some '/') = false :=
    beq_eq_false_iff_ne.mpr h.not_slash
  rw [join, String.toList_ofList, Path.join, hn.not_absolute, hempty, hslash]
  rfl

/-- A joined name is at the end of the path. -/
theorem endsInName_join (path n : String) (hn : Path.IsName n.toList) :
    EndsInName (join path n) := by
  refine ⟨n.toList, ?_, hn⟩
  rw [join, String.toList_ofList, Path.join, hn.not_absolute]
  simp only [Bool.false_eq_true, if_false]
  -- Joining leaves the slash out where the path is empty or ends in one already; the pieces
  -- are the same but for the empty one before the name.
  by_cases hjoined : (path.toList.isEmpty || path.toList.getLast? == some '/') = true
  · rw [if_pos hjoined]
    rcases Bool.or_eq_true_iff.mp hjoined with hnil | hslash
    · rw [List.isEmpty_iff.mp hnil, List.nil_append, Path.pieces_of_noSlash _ hn.noSlash]
      rfl
    · rcases List.getLast?_eq_some_iff.mp (beq_iff_eq.mp hslash) with ⟨front, hfront⟩
      rw [hfront, List.append_assoc, List.singleton_append, Path.pieces_append _ _ hn.noSlash,
        List.getLast?_concat]
  · rw [if_neg hjoined, Path.pieces_append _ _ hn.noSlash, List.getLast?_concat]

/-- Two names are joined one after the other. -/
theorem join_join (path a b both : String) (ha : Path.IsName a.toList)
    (hb : Path.IsName b.toList) (hboth : both.toList = a.toList ++ '/' :: b.toList) :
    join path both = join (join path a) b := by
  have habsolute : Path.isAbsolute (a.toList ++ '/' :: b.toList) = false := by
    cases hlist : a.toList with
    | nil => exact absurd hlist ha.ne_nil
    | cons c rest =>
        have hfirst := ha.not_absolute
        rw [hlist] at hfirst
        exact hfirst
  apply String.toList_inj.mp
  rw [join_toList _ (endsInName_join path a ha) b hb, join, join, String.toList_ofList,
    String.toList_ofList, Path.join, Path.join, hboth, habsolute, ha.not_absolute]
  simp only [Bool.false_eq_true, if_false]
  by_cases hjoined : (path.toList.isEmpty || path.toList.getLast? == some '/') = true
  · rw [if_pos hjoined, if_pos hjoined, List.append_assoc]
  · rw [if_neg hjoined, if_neg hjoined, List.append_assoc, List.cons_append]

/-- The steps of a path that ends in a name are its names. -/
theorem stepsOf_eq (path : String) (h : EndsInName path) :
    stepsOf path = ((Path.pieces path.toList).filter
      fun n => !n.isEmpty && n != Path.here).map String.ofList := by
  rcases h with ⟨n, hlast, hn⟩
  -- A path that ends in a name is none of those that lead to the folder itself, for which a
  -- step is added.
  have hempty : (some n == some ([] : List Char)) = false :=
    beq_eq_false_iff_ne.mpr (fun heq => hn.ne_nil (Option.some.inj heq))
  have hhere : (some n == some Path.here) = false :=
    beq_eq_false_iff_ne.mpr (fun heq => hn.ne_here (Option.some.inj heq))
  rw [stepsOf]
  simp only [hlast, hempty, hhere, Bool.or_self, Bool.false_and, Bool.false_eq_true, if_false]

/-- The steps of a joined path are those of the path and the name. A step that stays in place,
    from a slash at the end of the path, is taken by the name. -/
theorem exists_stepsOf_join (path n : String) (hn : Path.IsName n.toList) :
    ∃ steps, (stepsOf path = steps ∨ stepsOf path = steps ++ ["."]) ∧
      stepsOf (join path n) = steps ++ [n] := by
  have hkeep : (!n.toList.isEmpty && n.toList != Path.here) = true := by
    rw [Bool.and_eq_true, Bool.not_eq_true', List.isEmpty_eq_false_iff, bne_iff_ne]
    exact ⟨hn.ne_nil, hn.ne_here⟩
  rcases Path.exists_pieces_join path.toList n.toList hn.not_absolute with ⟨ps, hpath, hjoin⟩
  rw [Path.pieces_of_noSlash _ hn.noSlash] at hjoin
  have hnames : (Path.pieces path.toList).filter (fun n => !n.isEmpty && n != Path.here) =
      ps.filter fun n => !n.isEmpty && n != Path.here := by
    rcases hpath with heq | heq
    · rw [heq]
    · rw [heq, List.filter_append]
      exact List.append_nil _
  refine ⟨(ps.filter fun n => !n.isEmpty && n != Path.here).map String.ofList, ?_, ?_⟩
  · rw [stepsOf, hnames]
    split
    · exact Or.inr rfl
    · exact Or.inl rfl
  · rw [stepsOf_eq _ (endsInName_join path n hn), join, String.toList_ofList, hjoin,
      List.filter_append, List.map_append, List.filter_cons, if_pos hkeep, List.filter_nil,
      List.map_cons, List.map_nil, String.ofList_toList]

/-- The steps of a path that ends in a name are those before a name that is joined to it. -/
theorem stepsOf_join (path : String) (h : EndsInName path) (n : String)
    (hn : Path.IsName n.toList) : stepsOf (join path n) = stepsOf path ++ [n] := by
  rcases exists_stepsOf_join path n hn with ⟨steps, hsteps | hsteps, hjoin⟩
  · rw [hjoin, hsteps]
  · -- A step that stays in place comes from the end of another kind of path.
    have hmem : "." ∈ stepsOf path := by
      rw [hsteps]
      exact List.mem_append_right steps (List.mem_singleton_self ".")
    rw [stepsOf_eq path h, List.mem_map] at hmem
    rcases hmem with ⟨p, hp, heq⟩
    rw [List.mem_filter, Bool.and_eq_true, bne_iff_ne] at hp
    have hp' : p = Path.here := by
      rw [← String.toList_ofList (l := p), heq]
      rfl
    exact absurd hp' hp.2.2

theorem startOf_join (path n : String) (hn : Path.IsName n.toList) (here : Place) :
    startOf (join path n) here = startOf path here := by
  rw [startOf, startOf, join, String.toList_ofList,
    Path.isAbsolute_join path.toList n.toList hn.not_absolute]

/-- The folder of a joined path is the path that was joined to. -/
theorem parent_join (path : String) (h : EndsInName path) (n : String)
    (hn : Path.IsName n.toList) : String.ofList (Path.parent (join path n).toList) = path := by
  have hhead : (((join path n).toList.reverse).dropWhile (· != '/')).reverse =
      path.toList ++ ['/'] := by
    have hname : ∀ c ∈ n.toList.reverse, (c != '/') = true := by
      intro c hc
      rw [bne_iff_ne]
      exact fun heq => hn.noSlash (heq ▸ List.mem_reverse.mp hc)
    rw [join_toList path h n hn, List.reverse_append, List.reverse_cons, List.append_assoc,
      List.dropWhile_append_of_pos hname, List.singleton_append, List.dropWhile_cons_of_neg
        (by decide), List.reverse_cons, List.reverse_reverse]
  -- The path does not end in a slash, so the one that was joined is the only one trimmed.
  have htrimmed : ((path.toList ++ ['/']).reverse.dropWhile (· == '/')).reverse =
      path.toList := by
    rw [List.reverse_append, List.reverse_singleton, List.singleton_append,
      List.dropWhile_cons_of_pos (by decide)]
    cases hrev : path.toList.reverse with
    | nil => rw [List.reverse_eq_nil_iff] at hrev; exact absurd hrev h.ne_nil
    | cons c rest =>
        have hc : ¬ ((c == '/') = true) := by
          intro heq
          have hlast : path.toList.getLast? = path.toList.reverse.head? :=
            List.getLast?_eq_head?_reverse
          rw [hrev, List.head?_cons, beq_iff_eq.mp heq] at hlast
          exact h.not_slash hlast
        rw [List.dropWhile_cons, if_neg hc, ← hrev, List.reverse_reverse]
  have hne : path.toList.isEmpty = false := by
    rw [List.isEmpty_eq_false_iff]
    exact h.ne_nil
  rw [Path.parent]
  simp only [hhead, htrimmed, hne, Bool.false_eq_true, if_false, String.ofList_toList]

end Disk

end CodeAudit
