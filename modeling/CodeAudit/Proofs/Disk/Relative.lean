import CodeAudit.Proofs.Disk.Trails

/-!
# Ways From a Root

What the way from a folder to something in it looks like.

The way is worked out from the texts of two paths, by making both absolute, taking out the
detours, and leaving out what they have in common. The paths of the walk are made by joining names
to the path of the folder, whatever that path looks like: it may end in a slash, go up and down,
or be relative. Joining a name adds that name to what remains without detours, and so the way
consists of the names that were joined.

Different names give different ways, since names have no slashes. A file of a project is known by
its way from the root.

## Theorems

* `Path.isName_of_mem_withoutDetours`: What remains without detours are names.
* `Path.names_absolute_join`: What is joined goes on from the names of the absolute path.
* `Disk.relativeTo_joinAll`: The way from a folder is the names that were joined.
* `Disk.join_relativeTo_joinAll`: The way, joined to the folder, is the path that was joined.
* `Disk.relativeTo_joinAll_injective`: Different names give different ways.
-/

namespace CodeAudit

namespace Path

/-! ## Joined paths -/

/-- Joining is associative where relative paths are joined. -/
theorem join_join (a p q : List Char) (hp : isAbsolute p = false) (hq : isAbsolute q = false) :
    join a (join p q) = join (join a p) q := by
  have hpq : isAbsolute (join p q) = false := by rw [isAbsolute_join p q hq, hp]
  -- What is joined stands behind a front that does not depend on it, empty or with a slash at
  -- its end.
  have hstart : ∃ front, (∀ r, isAbsolute r = false → join a r = front ++ r) ∧
      (front = [] ∨ front.getLast? = some '/') := by
    by_cases ha : (a.isEmpty || a.getLast? == some '/') = true
    · refine ⟨a, fun r hr => ?_, ?_⟩
      · rw [join, hr, if_pos ha]
        rfl
      · rw [Bool.or_eq_true, List.isEmpty_iff, beq_iff_eq] at ha
        exact ha
    · refine ⟨a ++ ['/'], fun r hr => ?_, Or.inr List.getLast?_concat⟩
      rw [join, hr, if_neg ha, List.append_assoc]
      rfl
  rcases hstart with ⟨front, hfront, hslash⟩
  rw [hfront _ hpq, hfront p hp, join, join, hq]
  simp only [Bool.false_eq_true, if_false]
  cases p with
  | nil =>
      rw [List.append_nil]
      have hempty : (front.isEmpty || front.getLast? == some '/') = true := by
        rw [Bool.or_eq_true, List.isEmpty_iff, beq_iff_eq]
        exact hslash
      rw [if_pos hempty]
      rfl
  | cons c p =>
      -- The last character is that of the path, whatever stands before it.
      have hlast : (front ++ c :: p).getLast? = (c :: p).getLast? := by
        rw [List.getLast?_append]
        cases hp : (c :: p).getLast? with
        | none => rw [List.getLast?_eq_none_iff] at hp; cases hp
        | some x => rfl
      have hempty : (front ++ c :: p).isEmpty = (c :: p).isEmpty := by
        cases front <;> rfl
      rw [hempty, hlast]
      by_cases hjoined : ((c :: p).isEmpty || (c :: p).getLast? == some '/') = true
      · rw [if_pos hjoined, if_pos hjoined, List.append_assoc]
      · rw [if_neg hjoined, if_neg hjoined, List.append_assoc]

/-! ## Detours -/

theorem withoutDetours_cons (rooted : Bool) (kept : List (List Char)) (n : List Char)
    (rest : List (List Char)) :
    withoutDetours rooted kept (n :: rest) =
      if n.isEmpty || n == here then withoutDetours rooted kept rest
      else if n == up then
        match kept with
        | [] => withoutDetours rooted (if rooted then [] else [up]) rest
        | k :: more =>
          if k == up then withoutDetours rooted (up :: k :: more) rest
          else withoutDetours rooted more rest
      else withoutDetours rooted (n :: kept) rest :=
  withoutDetours.eq_def rooted kept (n :: rest)

theorem withoutDetours_names (rooted : Bool) (ns : List (List Char))
    (hns : ∀ n ∈ ns, IsName n) :
    ∀ kept, withoutDetours rooted kept ns = kept.reverse ++ ns := by
  induction ns with
  | nil =>
      intro kept
      rw [withoutDetours, List.append_nil]
  | cons n ns ih =>
      intro kept
      rw [List.forall_mem_cons] at hns
      have hstay : ¬ (n.isEmpty || n == here) = true := by
        rw [Bool.or_eq_true, List.isEmpty_iff, beq_iff_eq, not_or]
        exact ⟨hns.1.ne_nil, hns.1.ne_here⟩
      have hup : ¬ (n == up) = true := by
        rw [beq_iff_eq]
        exact hns.1.ne_up
      rw [withoutDetours_cons, if_neg hstay, if_neg hup, ih hns.2, List.reverse_cons,
        List.append_assoc]
      rfl

/-- Further pieces go on from what the pieces before them have left. -/
theorem withoutDetours_append (rooted : Bool) (ps qs : List (List Char)) :
    ∀ kept, withoutDetours rooted kept (ps ++ qs) =
      withoutDetours rooted (withoutDetours rooted kept ps).reverse qs := by
  induction ps with
  | nil =>
      intro kept
      rw [List.nil_append, withoutDetours, List.reverse_reverse]
  | cons p ps ih =>
      intro kept
      rw [List.cons_append, withoutDetours_cons, withoutDetours_cons]
      split
      · exact ih kept
      · split
        · cases kept with
          | nil => exact ih _
          | cons k more =>
              dsimp only
              split
              · exact ih _
              · exact ih _
        · exact ih _

/-- What remains without detours from the root are names. -/
theorem isName_of_mem_withoutDetours (ps : List (List Char)) (hps : ∀ n ∈ ps, '/' ∉ n) :
    ∀ kept, (∀ n ∈ kept, IsName n) → ∀ n ∈ withoutDetours true kept ps, IsName n := by
  induction ps with
  | nil =>
      intro kept hkept n hn
      rw [withoutDetours, List.mem_reverse] at hn
      exact hkept n hn
  | cons p ps ih =>
      intro kept hkept
      rw [List.forall_mem_cons] at hps
      rw [withoutDetours_cons]
      -- A piece is left out, or takes away the last name, or is a name itself.
      split
      · exact ih hps.2 kept hkept
      · rename_i hstay
        split
        · cases kept with
          | nil => exact ih hps.2 [] (fun _ h => absurd h List.not_mem_nil)
          | cons k more =>
              rw [List.forall_mem_cons] at hkept
              have hk : ¬ (k == up) = true := by
                rw [beq_iff_eq]
                exact hkept.1.ne_up
              dsimp only
              rw [if_neg hk]
              exact ih hps.2 _ hkept.2
        · rename_i hup
          rw [Bool.or_eq_true, List.isEmpty_iff, beq_iff_eq, not_or] at hstay
          rw [beq_iff_eq] at hup
          exact ih hps.2 _ (List.forall_mem_cons.mpr ⟨⟨hstay.1, hps.1, hstay.2, hup⟩, hkept⟩)

/-! ## Names of absolute paths -/

theorem joinNames_singleton (n : List Char) : joinNames [n] = n := by
  simp only [joinNames, List.intercalate, List.intersperse, List.flatten_cons, List.flatten_nil,
    List.append_nil]

theorem joinNames_cons_cons (n m : List Char) (ns : List (List Char)) :
    joinNames (n :: m :: ns) = n ++ '/' :: joinNames (m :: ns) := by
  simp only [joinNames, List.intercalate, List.intersperse, List.flatten_cons,
    List.singleton_append]

/-- Pieces that are joined and taken apart again. -/
theorem pieces_joinNames (ns : List (List Char)) (hne : ns ≠ []) (hns : ∀ n ∈ ns, '/' ∉ n) :
    pieces (joinNames ns) = ns := by
  rw [pieces_eq_splitOn]
  exact List.splitOn_intercalate '/' hns hne

theorem names_joinNames (ns : List (List Char)) (hns : ∀ n ∈ ns, n ≠ [] ∧ '/' ∉ n) :
    names (joinNames ns) = ns := by
  by_cases hne : ns = []
  · rw [hne]
    rfl
  · rw [names, pieces_joinNames ns hne fun n hn => (hns n hn).2]
    refine List.filter_eq_self.mpr fun n hn => ?_
    rw [Bool.not_eq_true', List.isEmpty_eq_false_iff]
    exact (hns n hn).1

theorem cases_of_leadingSlashes (p : List Char) (h : isAbsolute p = true) :
    leadingSlashes p = ['/'] ∨ leadingSlashes p = ['/', '/'] := by
  rw [isAbsolute, beq_iff_eq] at h
  unfold leadingSlashes
  split
  · exact Or.inl rfl
  · exact Or.inr rfl
  · exact Or.inl rfl
  · rename_i hno
    cases p with
    | nil => cases h
    | cons c p =>
        rw [List.head?_cons, Option.some.injEq] at h
        exact absurd (by rw [h]) (hno p)

/-- An absolute path without detours is what remains of its pieces, behind its slashes. -/
theorem normalize_eq (p : List Char) (h : isAbsolute p = true) :
    normalize p = leadingSlashes p ++ joinNames (withoutDetours true [] (pieces p)) := by
  unfold normalize
  rcases cases_of_leadingSlashes p h with heq | heq
  · rw [heq]
    rfl
  · rw [heq]
    rfl

theorem isName_of_mem_pieces (p : List Char) :
    ∀ n ∈ withoutDetours true [] (pieces p), IsName n :=
  isName_of_mem_withoutDetours (pieces p) (fun n hn => noSlash_of_mem_pieces p n hn) []
    fun _ hn => absurd hn List.not_mem_nil

/-- The names of an absolute path are what remains without detours. -/
theorem names_normalize (p : List Char) (h : isAbsolute p = true) :
    names (normalize p) = withoutDetours true [] (pieces p) := by
  have hmem := isName_of_mem_pieces p
  have hnames := names_joinNames _ fun n hn => ⟨(hmem n hn).ne_nil, (hmem n hn).noSlash⟩
  -- A slash at the front adds an empty piece, which is no name.
  have hslash : ∀ q, names ('/' :: q) = names q := by
    intro q
    have hpieces : pieces ('/' :: q) = [] :: pieces q := rfl
    rw [names, hpieces, List.filter_cons]
    rfl
  rw [normalize_eq p h]
  rcases cases_of_leadingSlashes p h with heq | heq
  · rw [heq, List.singleton_append, hslash, hnames]
  · rw [heq, List.cons_append, List.singleton_append, hslash, hslash, hnames]

/-- A path is made absolute before it is looked at, and so is one that is joined to it. -/
theorem exists_absolute_join (cwd p q : List Char) (hcwd : isAbsolute cwd = true)
    (hq : isAbsolute q = false) : ∃ r, isAbsolute r = true ∧ absolute cwd p = normalize r ∧
      absolute cwd (join p q) = normalize (join r q) := by
  rw [absolute, absolute, isAbsolute_join p q hq]
  -- The path is absolute, or has the current folder put in front. It makes no difference
  -- whether that is done before the joining or behind it.
  by_cases hp : isAbsolute p = true
  · rw [if_pos hp, if_pos hp]
    exact ⟨p, hp, rfl, rfl⟩
  · rw [if_neg hp, if_neg hp, join_join cwd p q (Bool.not_eq_true _ ▸ hp) hq]
    exact ⟨join cwd p, by rw [isAbsolute_join cwd p (Bool.not_eq_true _ ▸ hp), hcwd], rfl, rfl⟩

/-- The pieces of a path that is joined go on from the names of the absolute path. -/
theorem names_absolute_join (cwd p q : List Char) (hcwd : isAbsolute cwd = true)
    (hq : isAbsolute q = false) :
    names (absolute cwd (join p q)) =
      withoutDetours true (names (absolute cwd p)).reverse (pieces q) := by
  rcases exists_absolute_join cwd p q hcwd hq with ⟨r, hr, hp, hpq⟩
  rcases exists_pieces_join r q hq with ⟨ps, hps, hjoin⟩
  rw [hpq, hp, names_normalize r hr, names_normalize (join r q) (by rw [isAbsolute_join r q hq, hr]),
    hjoin, withoutDetours_append]
  rcases hps with heq | heq
  · rw [heq]
  · -- An empty piece leaves what is kept as it is.
    have hempty : ∀ kept, withoutDetours true kept [[]] = kept.reverse := fun _ => rfl
    rw [heq, withoutDetours_append, hempty, List.reverse_reverse]

/-- A joined name is the last name of the absolute path. -/
theorem names_absolute_join_name (cwd p n : List Char) (hcwd : isAbsolute cwd = true)
    (hn : IsName n) : names (absolute cwd (join p n)) = names (absolute cwd p) ++ [n] := by
  rw [names_absolute_join cwd p n hcwd hn.not_absolute, pieces_of_noSlash n hn.noSlash,
    withoutDetours_names true [n] (fun m hm => List.mem_singleton.mp hm ▸ hn),
    List.reverse_reverse]

end Path

namespace Disk

variable (d : Disk) (root : String)

theorem names_absolute_joinAll (ns : List String) :
    ∀ path : String, (∀ n ∈ ns, Path.IsName n.toList) →
      Path.names (Path.absolute d.cwdPath (joinAll path ns).toList) =
        Path.names (Path.absolute d.cwdPath path.toList) ++ ns.map String.toList := by
  induction ns with
  | nil => exact fun path _ => (List.append_nil _).symm
  | cons n ns ih =>
      intro path hns
      rw [List.forall_mem_cons] at hns
      rw [joinAll_cons, ih _ hns.2, join, String.toList_ofList,
        Path.names_absolute_join_name d.cwdPath path.toList n.toList rfl hns.1,
        List.append_assoc]
      rfl

/-- The way from a folder to names in it is these names. -/
theorem relativeTo_joinAll (ns : List String) (hne : ns ≠ [])
    (hns : ∀ n ∈ ns, Path.IsName n.toList) :
    d.relativeTo root (joinAll root ns) =
      String.ofList (Path.joinNames (ns.map String.toList)) := by
  -- All the names of the folder are in common, and the rest is the way.
  have hcommon : ∀ xs ys : List (List Char), Path.dropCommon xs (xs ++ ys) = ([], ys) := by
    intro xs ys
    induction xs with
    | nil =>
        rw [List.nil_append, Path.dropCommon]
        exact fun _ _ _ _ heq => nomatch heq
    | cons x xs ih => rw [List.cons_append, Path.dropCommon, if_pos (beq_self_eq_true x), ih]
  have hway : (ns.map String.toList).isEmpty = false := by
    rw [List.isEmpty_eq_false_iff]
    exact fun heq => hne (List.map_eq_nil_iff.mp heq)
  rw [relativeTo, Path.relativeTo, names_absolute_joinAll d ns root hns, hcommon]
  simp only [List.length_nil, List.replicate_zero, List.nil_append, hway, Bool.false_eq_true,
    if_false]

theorem joinNames_cons (n : List Char) (ns : List (List Char)) :
    Path.joinNames (n :: ns) = n ++ ns.flatMap fun m => '/' :: m := by
  induction ns generalizing n with
  | nil => rw [Path.joinNames_singleton, List.flatMap_nil, List.append_nil]
  | cons m ns ih =>
      rw [Path.joinNames_cons_cons, ih m, List.flatMap_cons, List.cons_append]

theorem joinAll_toList (ns : List String) :
    ∀ path, EndsInName path → (∀ n ∈ ns, Path.IsName n.toList) →
      (joinAll path ns).toList = path.toList ++ ns.flatMap fun n => '/' :: n.toList := by
  induction ns with
  | nil => exact fun path _ _ => (List.append_nil _).symm
  | cons n ns ih =>
      intro path hpath hns
      rw [List.forall_mem_cons] at hns
      rw [joinAll_cons, ih _ (endsInName_join path n hns.1) hns.2,
        join_toList path hpath n hns.1, List.append_assoc, List.flatMap_cons]

/-- The path of names in a folder is the folder with the way to them joined to it. -/
theorem join_relativeTo_joinAll (ns : List String) (hne : ns ≠ [])
    (hns : ∀ n ∈ ns, Path.IsName n.toList) :
    join root (d.relativeTo root (joinAll root ns)) = joinAll root ns := by
  rw [relativeTo_joinAll d root ns hne hns]
  cases ns with
  | nil => exact absurd rfl hne
  | cons n ns =>
      rw [List.forall_mem_cons] at hns
      have hrelative : ∀ more, Path.isAbsolute (n.toList ++ more) = false := by
        intro more
        cases hn : n.toList with
        | nil => exact absurd hn hns.1.ne_nil
        | cons c rest =>
            have hfirst := hns.1.not_absolute
            rw [hn] at hfirst
            exact hfirst
      apply String.toList_inj.mp
      rw [joinAll_cons, joinAll_toList ns _ (endsInName_join root n hns.1) hns.2, List.map_cons,
        joinNames_cons, List.flatMap_map, join, join, String.toList_ofList, String.toList_ofList,
        String.toList_ofList, Path.join, Path.join, hrelative, hns.1.not_absolute]
      simp only [Bool.false_eq_true, if_false]
      -- The slash in front of the names is left out or put in on both sides.
      split
      · rw [List.append_assoc]
      · rw [List.append_assoc, List.cons_append]

/-- Different names in a folder have different ways from it. -/
theorem relativeTo_joinAll_injective (d' : Disk) (root' : String) (ns ms : List String)
    (hns : ns ≠ []) (hms : ms ≠ []) (hnames : ∀ n ∈ ns, Path.IsName n.toList)
    (hmames : ∀ n ∈ ms, Path.IsName n.toList)
    (h : d.relativeTo root (joinAll root ns) = d'.relativeTo root' (joinAll root' ms)) :
    ns = ms := by
  have hapart : ∀ ks : List String, (∀ k ∈ ks, Path.IsName k.toList) →
      Path.names (Path.joinNames (ks.map String.toList)) = ks.map String.toList := by
    intro ks hks
    refine Path.names_joinNames _ fun n hn => ?_
    rcases List.mem_map.mp hn with ⟨k, hk, heq⟩
    exact heq ▸ ⟨(hks k hk).ne_nil, (hks k hk).noSlash⟩
  rw [relativeTo_joinAll d root ns hns hnames, relativeTo_joinAll d' root' ms hms hmames] at h
  have hlist := congrArg (fun s => Path.names s.toList) h
  simp only [String.toList_ofList, hapart ns hnames, hapart ms hmames] at hlist
  exact List.map_injective_iff.mpr (fun a b hab => String.toList_inj.mp hab) hlist

end Disk

end CodeAudit
