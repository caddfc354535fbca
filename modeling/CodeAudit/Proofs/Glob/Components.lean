import CodeAudit.Proofs.Disk.Relative
import CodeAudit.Proofs.Glob.Matching
import CodeAudit.Proofs.Scan.Selecting

/-!
# Globs and the Components of Paths

Globs for folders with a name and for the ends of names look at whole components of a path.

Both start with a wildcard for folders. What that stands for is empty or ends in a slash, so it
covers some of the first components completely, and the name behind it begins where a component
begins. Therefore a folder that has the name in its own name does not count.

## Main definitions

* `IsPlain`: A text without slashes and wildcards.
* `below`: The glob for everything below folders with a name.
* `ending`: The glob for files whose names end in some way.

## Theorems

* `Path.mem_dropLast_pieces_iff`: The components of a path other than the last.
* `Path.suffix_getLast_pieces_iff`: The last component of a path.
* `accepts_by_components`: Selection looks at the components of a path.
-/

namespace CodeAudit

/-! ## Components -/

namespace Path

open Glob (Token)

/-- A path is made of its pieces. -/
theorem joinNames_pieces (p : List Char) : joinNames (pieces p) = p := by
  rw [pieces_eq_splitOn]
  exact List.intercalate_splitOn '/'

theorem pieces_ne_nil (p : List Char) : pieces p ≠ [] :=
  piecesFrom_ne_nil p []

/-- What some folders stand for is pieces of their own in front of what comes behind them. -/
theorem exists_pieces_of_folders (front : List Char) (h : Token.folders.StandsFor front) :
    ∃ ns, ∀ back, pieces (front ++ back) = ns ++ pieces back := by
  rcases h with rfl | ⟨f, rfl⟩
  · exact ⟨[], fun back => rfl⟩
  · refine ⟨pieces f, fun back => ?_⟩
    rw [List.append_assoc, List.singleton_append, pieces_slash]

/-- Any pieces at the front of a path are something that folders stand for. -/
theorem exists_folders_of_pieces (ns rest : List (List Char)) (h : rest ≠ []) :
    ∃ front, Token.folders.StandsFor front ∧ joinNames (ns ++ rest) = front ++ joinNames rest := by
  induction ns with
  | nil => exact ⟨[], Or.inl rfl, rfl⟩
  | cons n ns ih =>
      rcases ih with ⟨front, hfront, heq⟩
      -- There is a piece behind in any case, so each of those in front has its slash.
      have hjoin : joinNames (n :: (ns ++ rest)) = n ++ '/' :: joinNames (ns ++ rest) := by
        cases hmore : ns ++ rest with
        | nil => exact absurd (List.append_eq_nil_iff.mp hmore).2 h
        | cons m more => exact joinNames_cons_cons n m more
      refine ⟨n ++ '/' :: front, Or.inr ?_, ?_⟩
      · rcases hfront with rfl | ⟨f, rfl⟩
        · exact ⟨n, rfl⟩
        · exact ⟨n ++ '/' :: f, by simp⟩
      · rw [List.cons_append, hjoin, heq, List.append_assoc, List.cons_append]

/-- A name is a component other than the last exactly if folders can stand before it and anything
    behind it. -/
theorem mem_dropLast_pieces_iff (p s : List Char) (hs : '/' ∉ s) :
    s ∈ (pieces p).dropLast ↔
      ∃ front back, Token.folders.StandsFor front ∧ p = front ++ (s ++ '/' :: back) := by
  have hne := pieces_ne_nil p
  constructor
  -- The name is cut out of the pieces. Those before it are the folders, and as it is not the
  -- last, a slash stands behind it.
  · intro hmem
    rcases List.append_of_mem hmem with ⟨before, behind, hsplit⟩
    have hpieces : pieces p = before ++ (s :: (behind ++ [(pieces p).getLast hne])) := by
      rw [← List.cons_append, ← List.append_assoc, ← hsplit, List.dropLast_concat_getLast]
    rcases exists_folders_of_pieces before _ (List.cons_ne_nil s _) with ⟨front, hfront, heq⟩
    rw [← hpieces, joinNames_pieces] at heq
    cases hrest : behind ++ [(pieces p).getLast hne] with
    | nil => exact absurd hrest (by simp)
    | cons m more =>
        rw [hrest, joinNames_cons_cons] at heq
        exact ⟨front, _, hfront, heq⟩
  · rintro ⟨front, back, hfront, rfl⟩
    rcases exists_pieces_of_folders front hfront with ⟨ns, hns⟩
    rw [hns, pieces_slash, pieces_of_noSlash s hs, ← List.append_assoc,
      List.dropLast_append_of_ne_nil (pieces_ne_nil back)]
    simp

/-- The last component of a path ends in some way exactly if folders can stand before a name that
    ends that way. -/
theorem suffix_getLast_pieces_iff (p e : List Char) (he : '/' ∉ e) :
    e <:+ (pieces p).getLast (pieces_ne_nil p) ↔
      ∃ front name, Token.folders.StandsFor front ∧ '/' ∉ name ∧ p = front ++ (name ++ e) := by
  have hne := pieces_ne_nil p
  constructor
  -- All components but the last are the folders.
  · rintro ⟨name, hname⟩
    rcases exists_folders_of_pieces (pieces p).dropLast [(pieces p).getLast hne]
      (List.cons_ne_nil _ _) with ⟨front, hfront, heq⟩
    rw [List.dropLast_concat_getLast, joinNames_pieces, joinNames_singleton, ← hname] at heq
    have hslash := noSlash_of_mem_pieces p _ (List.getLast_mem hne)
    rw [← hname, List.mem_append, not_or] at hslash
    exact ⟨front, name, hfront, hslash.1, heq⟩
  · rintro ⟨front, name, hfront, hname, rfl⟩
    rcases exists_pieces_of_folders front hfront with ⟨ns, hns⟩
    have hslash : '/' ∉ name ++ e := by
      rw [List.mem_append, not_or]
      exact ⟨hname, he⟩
    simp only [hns, pieces_of_noSlash _ hslash, List.getLast_concat]
    exact List.suffix_append name e

end Path

/-! ## Globs for folders and for the ends of names -/

namespace Glob

/-- A text without slashes and wildcards. -/
structure IsPlain (s : String) : Prop where
  noSlash : '/' ∉ s.toList
  noStar : '*' ∉ s.toList
  noMark : '?' ∉ s.toList

instance (s : String) : Decidable (IsPlain s) :=
  decidable_of_iff ('/' ∉ s.toList ∧ '*' ∉ s.toList ∧ '?' ∉ s.toList)
    ⟨fun h => ⟨h.1, h.2.1, h.2.2⟩, fun h => ⟨h.1, h.2, h.3⟩⟩

/-- The glob for everything below folders with a name. -/
def below (name : String) : String :=
  "**/" ++ name ++ "/**"

/-- The glob for files whose names end in some way. -/
def ending (e : String) : String :=
  "**/*" ++ e

/-- Characters that are no wildcards are read as themselves. -/
theorem reads_literals (s : List Char) (hstar : '*' ∉ s) (hmark : '?' ∉ s) {rest : List Char}
    {ts : List Token} (h : Reads rest ts) : Reads (s ++ rest) (s.map .literal ++ ts) := by
  induction s with
  | nil => exact h
  | cons c s ih =>
      rw [List.mem_cons, not_or] at hstar hmark
      exact .literal (Ne.symm hstar.1) (Ne.symm hmark.1) (ih hstar.2 hmark.2)

theorem tokens_below (s : String) (hs : IsPlain s) :
    tokens (below s).toList = .folders :: (s.toList.map .literal ++ [.literal '/', .anything]) := by
  -- The glob is told by a reading of it, since there is only one.
  have hend : Reads ['/', '*', '*'] [.literal '/', .anything] :=
    .literal (by decide) (by decide) (.anything (by decide) .nil)
  have hreads := Reads.folders (reads_literals s.toList hs.noStar hs.noMark hend)
  rw [hreads.eq_tokens]
  simp [below]

theorem tokens_ending (e : String) (he : IsPlain e) :
    tokens (ending e).toList = .folders :: .nameText :: e.toList.map .literal := by
  -- No asterisk stands behind the one in the glob, so that it is read alone.
  have hstar : e.toList.head? ≠ some '*' := fun h => he.noStar (List.mem_of_head? h)
  have hliterals := reads_literals e.toList he.noStar he.noMark .nil
  rw [List.append_nil, List.append_nil] at hliterals
  have hreads := Reads.folders (.nameText hstar hliterals)
  rw [hreads.eq_tokens]
  simp [ending]

/-- The glob for everything below folders with a name is decided by the components of a path other
    than the last. -/
theorem matchesGlob_below_iff (path s : String) (hs : IsPlain s) :
    matchesGlob path.toList (below s).toList = true ↔
      s.toList ∈ (path.toList.splitOn '/').dropLast := by
  rw [matchesGlob_iff_standFor, tokens_below s hs, standFor_cons, ← Path.pieces_eq_splitOn,
    Path.mem_dropLast_pieces_iff _ _ hs.noSlash]
  constructor
  · rintro ⟨front, _, hpath, hfront, hrest⟩
    rcases (standFor_literals s.toList _ _).mp hrest with ⟨_, rfl, hmore⟩
    rcases (standFor_cons _ _ _).mp hmore with ⟨_, back, rfl, rfl, _⟩
    exact ⟨front, back, hfront, hpath⟩
  · rintro ⟨front, back, hfront, hpath⟩
    refine ⟨front, _, hpath, hfront, (standFor_literals _ _ _).mpr ⟨'/' :: back, rfl, ?_⟩⟩
    exact ⟨[['/'], back], .cons rfl (.cons trivial .nil), by simp⟩

/-- The glob for the end of a name is decided by the last component of a path. -/
theorem matchesGlob_ending_iff (path e : String) (he : IsPlain e) :
    matchesGlob path.toList (ending e).toList = true ↔
      e.toList <:+ (path.toList.splitOn '/').getLast (List.splitOn_ne_nil _ _) := by
  -- The last component is spelled by the pieces of the model and by the cuts at slashes.
  have hlast := List.getLast_congr (Path.pieces_ne_nil path.toList) (List.splitOn_ne_nil _ _)
    (Path.pieces_eq_splitOn path.toList)
  have hliterals (rest : List Char) : StandFor (e.toList.map .literal) rest ↔ rest = e.toList := by
    rw [← List.append_nil (e.toList.map Token.literal), standFor_literals]
    simp [standFor_nil]
  rw [matchesGlob_iff_standFor, tokens_ending e he, standFor_cons, ← hlast,
    Path.suffix_getLast_pieces_iff _ _ he.noSlash]
  constructor
  · rintro ⟨front, rest, hpath, hfront, hrest⟩
    rcases (standFor_cons _ _ _).mp hrest with ⟨name, more, rfl, hname, hmore⟩
    rw [(hliterals more).mp hmore] at hpath
    exact ⟨front, name, hfront, hname, hpath⟩
  · rintro ⟨front, name, hfront, hname, hpath⟩
    refine ⟨front, _, hpath, hfront, (standFor_cons _ _ _).mpr ?_⟩
    exact ⟨name, e.toList, rfl, hname, (hliterals _).mpr rfl⟩

/-- Globs for folders and for the ends of names are decided by the components of a path. So a path
    is taken, if it has to match some glob of the one kind and none of the other, exactly if the
    name of the file ends in some way that is included and no folder has a name that is
    excluded. -/
theorem accepts_by_components (path : String) :
    (∀ s, IsPlain s → (matchesGlob path.toList (below s).toList = true ↔
      s.toList ∈ (path.toList.splitOn '/').dropLast)) ∧
    (∀ e, IsPlain e → (matchesGlob path.toList (ending e).toList = true ↔
      e.toList <:+ (path.toList.splitOn '/').getLast (List.splitOn_ne_nil _ _))) ∧
    ∀ es ss : List String, (∀ e ∈ es, IsPlain e) → (∀ s ∈ ss, IsPlain s) →
      (accepts (es.map ending) (ss.map below) path = true ↔
        (∃ e ∈ es, e.toList <:+ (path.toList.splitOn '/').getLast (List.splitOn_ne_nil _ _)) ∧
          ∀ s ∈ ss, s.toList ∉ (path.toList.splitOn '/').dropLast) := by
  refine ⟨matchesGlob_below_iff path, matchesGlob_ending_iff path, fun es ss hes hss => ?_⟩
  rw [accepts_iff]
  refine and_congr ?_ ?_
  · simp only [List.mem_map, exists_exists_and_eq_and]
    exact exists_congr fun e => and_congr_right fun he => matchesGlob_ending_iff path e (hes e he)
  · simp only [List.forall_mem_map]
    refine forall₂_congr fun s hs => ?_
    rw [← matchesGlob_below_iff path s (hss s hs), Bool.not_eq_true]

/-- What the globs that are there by default include and exclude. -/
theorem standard_globs :
    Config.standard.includes = [".java", ".kt", ".py", ".js", ".ts", ".go"].map ending ∧
      Config.standard.excludes =
        ["test", "build", "target", "node_modules", ".git"].map below := by
  decide

/-- A folder for tests is excluded, and names that the word is only a part of are not. -/
theorem accepts_by_components_standard :
    accepts Config.standard.includes Config.standard.excludes "contest/test.py" = true ∧
      accepts Config.standard.includes Config.standard.excludes "src/test/a.py" = false := by
  have hes : ∀ e ∈ [".java", ".kt", ".py", ".js", ".ts", ".go"], IsPlain e := by decide
  have hss : ∀ s ∈ ["test", "build", "target", "node_modules", ".git"], IsPlain s := by decide
  rw [standard_globs.1, standard_globs.2, ← Bool.not_eq_true]
  constructor
  · rw [(accepts_by_components "contest/test.py").2.2 _ _ hes hss]
    decide
  · rw [(accepts_by_components "src/test/a.py").2.2 _ _ hes hss]
    decide

end Glob

end CodeAudit
