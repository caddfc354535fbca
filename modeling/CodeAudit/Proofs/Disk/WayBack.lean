import CodeAudit.Proofs.Disk.Relative

/-!
# Ways Back

That the way from a root leads back to where it was taken from.

The way goes up once for each name that only the root has, and then down the names that only the
path has. Joined to the root and freed of detours it has to give the path again, and this rests on
what the ways up meet: what is left of the root are names, so each way up takes one of them away,
and after the last one the names that the two have in common are left. Then the names of the path
are put behind them.

A path is more than its names: two slashes at its start are kept apart from one, and the way does
not tell of them. So the root and the path have to start alike, and both with one slash is what all
paths do but those that the system keeps apart.

## Main definitions

* `Path.StartsWithTwo`: A path starts with exactly two slashes.

## Theorems

* `Path.exists_dropCommon`: What two lists have in common, and what is left of them.
* `Path.withoutDetours_up`: Ways up take names away.
* `Path.names_absolute_join_relativeTo`: The way from a root leads to the names of the path.
* `Path.leadingSlashes_absolute_join`: A joined path starts like the path that was joined to.
* `wayTo_leads_back`: The way from a root leads back.
-/

namespace CodeAudit

namespace Path

/-- A path starts with exactly two slashes. What it means is left to the system. -/
def StartsWithTwo (p : List Char) : Prop :=
  leadingSlashes p = ['/', '/']

instance (p : List Char) : Decidable (StartsWithTwo p) :=
  inferInstanceAs (Decidable (leadingSlashes p = ['/', '/']))

/-! ## Names -/

/-- Two lists are what they have in common and what is left of each. -/
theorem exists_dropCommon (as : List (List Char)) :
    ∀ bs, ∃ common, as = common ++ (dropCommon as bs).1 ∧ bs = common ++ (dropCommon as bs).2 := by
  induction as with
  | nil =>
      intro bs
      refine ⟨[], ?_⟩
      rw [dropCommon]
      · exact ⟨rfl, rfl⟩
      · exact fun _ _ _ _ heq => absurd heq.symm (List.cons_ne_nil _ _)
  | cons a as ih =>
      intro bs
      cases bs with
      | nil => exact ⟨[], rfl, rfl⟩
      | cons b bs =>
          rw [dropCommon]
          split
          · rename_i hsame
            rcases ih bs with ⟨common, has, hbs⟩
            refine ⟨a :: common, congrArg _ has, ?_⟩
            rw [beq_iff_eq] at hsame
            rw [hsame, List.cons_append, ← hbs]
          · exact ⟨[], rfl, rfl⟩

/-- Ways up take away as many names. -/
theorem withoutDetours_up (kept rest : List (List Char)) (above : List (List Char))
    (habove : ∀ n ∈ above, IsName n) :
    withoutDetours true (above ++ kept) (List.replicate above.length up ++ rest) =
      withoutDetours true kept rest := by
  induction above with
  | nil => rfl
  | cons n above ih =>
      rw [List.forall_mem_cons] at habove
      have hup : ¬ (up.isEmpty || up == here) = true := by decide
      have hn : ¬ (n == up) = true := by
        rw [beq_iff_eq]
        exact habove.1.ne_up
      -- What is taken away is a name, not a step up that was kept.
      rw [List.length_cons, List.replicate_succ, List.cons_append, List.cons_append,
        withoutDetours_cons, if_neg hup, if_pos (beq_self_eq_true up)]
      dsimp only
      rw [if_neg hn]
      exact ih habove.2

/-- An absolute path has an empty piece in front. -/
theorem isAbsolute_of_pieces (q : List Char) (h : ∀ n ∈ pieces q, n ≠ []) :
    isAbsolute q = false := by
  cases q with
  | nil => rfl
  | cons c q =>
      rw [isAbsolute, List.head?_cons, beq_eq_false_iff_ne]
      intro heq
      rw [Option.some.inj heq] at h
      exact h [] List.mem_cons_self rfl

section

variable (cwd root p : List Char) (hcwd : isAbsolute cwd = true)

include hcwd

theorem isAbsolute_resolved : ∃ r, isAbsolute r = true ∧ absolute cwd p = normalize r := by
  rcases exists_absolute_join cwd p [] hcwd rfl with ⟨r, hr, hp, _⟩
  exact ⟨r, hr, hp⟩

theorem isName_of_mem_names_absolute : ∀ n ∈ names (absolute cwd p), IsName n := by
  rcases isAbsolute_resolved cwd p hcwd with ⟨r, hr, hp⟩
  rw [hp, names_normalize r hr]
  exact isName_of_mem_pieces r

/-- The pieces of the way from a root go up from the names that only the root has, and down to those
    that only the path has. -/
theorem exists_pieces_relativeTo : ∃ common above below,
    names (absolute cwd root) = common ++ above ∧ names (absolute cwd p) = common ++ below ∧
      (pieces (relativeTo cwd root p) = List.replicate above.length up ++ below ∨
        pieces (relativeTo cwd root p) = [here] ∧ above = [] ∧ below = []) := by
  rcases exists_dropCommon (names (absolute cwd root)) (names (absolute cwd p)) with
    ⟨common, habove, hbelow⟩
  refine ⟨common, _, _, habove, hbelow, ?_⟩
  rcases hdrop : dropCommon (names (absolute cwd root)) (names (absolute cwd p)) with
    ⟨above, below⟩
  rw [hdrop] at habove hbelow
  rw [relativeTo, hdrop]
  dsimp only at habove hbelow ⊢
  -- A root has no way to itself, for which the step that stays is written.
  by_cases hway : List.replicate above.length up ++ below = []
  · rw [List.append_eq_nil_iff, List.replicate_eq_nil_iff, List.length_eq_zero_iff] at hway
    rw [hway.1, hway.2]
    exact Or.inr ⟨rfl, rfl, rfl⟩
  · rw [if_neg (by rw [List.isEmpty_iff]; exact hway)]
    refine Or.inl (pieces_joinNames _ hway fun n hn => ?_)
    rcases List.mem_append.mp hn with hn | hn
    · rw [List.eq_of_mem_replicate hn]
      decide
    · refine (isName_of_mem_names_absolute cwd p hcwd n ?_).noSlash
      rw [hbelow]
      exact List.mem_append_right common hn

theorem isAbsolute_relativeTo : isAbsolute (relativeTo cwd root p) = false := by
  refine isAbsolute_of_pieces _ fun n hn => ?_
  rcases exists_pieces_relativeTo cwd root p hcwd with
    ⟨common, above, below, _, hp, hway | ⟨hway, _⟩⟩
  · rw [hway] at hn
    rcases List.mem_append.mp hn with hn | hn
    · rw [List.eq_of_mem_replicate hn]
      exact List.cons_ne_nil _ _
    · refine (isName_of_mem_names_absolute cwd p hcwd n ?_).ne_nil
      rw [hp]
      exact List.mem_append_right common hn
  · rw [hway, List.mem_singleton] at hn
    rw [hn]
    exact List.cons_ne_nil _ _

/-- The way from a root, joined to the root, leads to the names of the path. -/
theorem names_absolute_join_relativeTo :
    names (absolute cwd (join root (relativeTo cwd root p))) = names (absolute cwd p) := by
  rw [names_absolute_join cwd root _ hcwd (isAbsolute_relativeTo cwd root p hcwd)]
  rcases exists_pieces_relativeTo cwd root p hcwd with
    ⟨common, above, below, hroot, hp, hway | ⟨hway, rfl, rfl⟩⟩
  · have habove : ∀ n ∈ above.reverse, IsName n := by
      intro n hn
      refine isName_of_mem_names_absolute cwd root hcwd n ?_
      rw [hroot]
      exact List.mem_append_right common (List.mem_reverse.mp hn)
    have hbelow : ∀ n ∈ below, IsName n := by
      intro n hn
      refine isName_of_mem_names_absolute cwd p hcwd n ?_
      rw [hp]
      exact List.mem_append_right common hn
    rw [hway, hroot, hp, List.reverse_append, ← List.length_reverse,
      withoutDetours_up _ _ _ habove, withoutDetours_names true below hbelow,
      List.reverse_reverse]
  -- A step that stays leaves the names of the root, and these are the names of the path.
  · rw [hway, hroot, hp]
    exact List.reverse_reverse _

end

/-! ## Slashes -/

theorem leadingSlashes_cons (q : List Char) (hq : isAbsolute q = false) :
    leadingSlashes ('/' :: q) = ['/'] ∧ leadingSlashes ('/' :: '/' :: q) = ['/', '/'] := by
  have hslash : ∀ rest, q ≠ '/' :: rest := by
    intro rest heq
    rw [heq] at hq
    exact Bool.noConfusion hq
  constructor
  · rw [leadingSlashes]
    · exact fun rest heq => hslash _ heq
    · exact fun rest heq => hslash _ heq
  · rw [leadingSlashes]
    exact fun rest heq => hslash _ heq

theorem exists_of_isAbsolute (p : List Char) (hp : isAbsolute p = true) : ∃ q, p = '/' :: q := by
  cases p with
  | nil => exact nomatch hp
  | cons c q =>
      rw [isAbsolute, List.head?_cons, beq_iff_eq, Option.some.injEq] at hp
      exact ⟨q, by rw [hp]⟩

/-- A path that is joined does not change the slashes in front. -/
theorem leadingSlashes_join (p q : List Char) (hp : isAbsolute p = true)
    (hq : isAbsolute q = false) : leadingSlashes (join p q) = leadingSlashes p := by
  -- Behind a slash at the end nothing is put but the path itself.
  have hmore : ∃ more, join p q = p ++ more ∧
      (p.getLast? = some '/' → isAbsolute more = false) := by
    rw [join, hq]
    simp only [Bool.false_eq_true, if_false]
    by_cases hjoined : (p.isEmpty || p.getLast? == some '/') = true
    · rw [if_pos hjoined]
      exact ⟨q, rfl, fun _ => hq⟩
    · rw [if_neg hjoined]
      rw [Bool.or_eq_true, beq_iff_eq, not_or] at hjoined
      exact ⟨'/' :: q, rfl, fun hlast => absurd hlast hjoined.2⟩
  rcases hmore with ⟨more, heq, hmore⟩
  rw [heq]
  -- So the first character behind the slashes in front is no slash, wherever it comes from.
  have hbehind : ∀ front rest, p = front ++ rest → front.getLast? = some '/' →
      isAbsolute rest = false → isAbsolute (rest ++ more) = false := by
    intro front rest hcut hlast hrest
    cases rest with
    | nil =>
        rw [List.append_nil] at hcut
        exact hmore (hcut ▸ hlast)
    | cons c rest => exact hrest
  rcases exists_of_isAbsolute p hp with ⟨r, rfl⟩
  cases hr : isAbsolute r with
  | false =>
      rw [(leadingSlashes_cons r hr).1, List.cons_append,
        (leadingSlashes_cons _ (hbehind ['/'] r rfl rfl hr)).1]
  | true =>
      rcases exists_of_isAbsolute r hr with ⟨r, rfl⟩
      cases hr : isAbsolute r with
      | false =>
          rw [(leadingSlashes_cons r hr).2, List.cons_append, List.cons_append,
            (leadingSlashes_cons _ (hbehind ['/', '/'] r rfl rfl hr)).2]
      | true =>
          rcases exists_of_isAbsolute r hr with ⟨r, rfl⟩
          rfl

theorem isAbsolute_joinNames (ns : List (List Char)) (hns : ∀ n ∈ ns, IsName n) :
    isAbsolute (joinNames ns) = false := by
  by_cases hne : ns = []
  · rw [hne]
    rfl
  · refine isAbsolute_of_pieces _ fun n hn => ?_
    rw [pieces_joinNames ns hne fun n hn => (hns n hn).noSlash] at hn
    exact (hns n hn).ne_nil

theorem leadingSlashes_normalize (p : List Char) (hp : isAbsolute p = true) :
    leadingSlashes (normalize p) = leadingSlashes p := by
  have hslashes := leadingSlashes_cons _ (isAbsolute_joinNames _ (isName_of_mem_pieces p))
  rw [normalize_eq p hp]
  rcases cases_of_leadingSlashes p hp with heq | heq
  · rw [heq]
    exact hslashes.1
  · rw [heq]
    exact hslashes.2

section

variable (cwd p : List Char) (hcwd : isAbsolute cwd = true)

include hcwd

/-- A joined path starts like the path that was joined to. -/
theorem leadingSlashes_absolute_join (q : List Char) (hq : isAbsolute q = false) :
    leadingSlashes (absolute cwd (join p q)) = leadingSlashes (absolute cwd p) := by
  rcases exists_absolute_join cwd p q hcwd hq with ⟨r, hr, hp, hpq⟩
  rw [hp, hpq, leadingSlashes_normalize r hr, leadingSlashes_normalize (join r q)
    (by rw [isAbsolute_join r q hq, hr]), leadingSlashes_join r q hr hq]

/-- An absolute path is its slashes and its names. -/
theorem absolute_eq :
    absolute cwd p = leadingSlashes (absolute cwd p) ++ joinNames (names (absolute cwd p)) := by
  rcases isAbsolute_resolved cwd p hcwd with ⟨r, hr, hp⟩
  rw [hp, leadingSlashes_normalize r hr, names_normalize r hr]
  exact normalize_eq r hr

theorem leadingSlashes_absolute (h : ¬StartsWithTwo (absolute cwd p)) :
    leadingSlashes (absolute cwd p) = ['/'] := by
  rcases isAbsolute_resolved cwd p hcwd with ⟨r, hr, hp⟩
  rw [StartsWithTwo, hp, leadingSlashes_normalize r hr] at h
  rw [hp, leadingSlashes_normalize r hr]
  exact (cases_of_leadingSlashes r hr).resolve_right h

end

end Path

/-! ## Projects -/

theorem Disk.joinAll_ne_empty (root : String) (ns : List String) (hne : ns ≠ [])
    (hns : ∀ n ∈ ns, Path.IsName n.toList) : joinAll root ns ≠ "" := by
  cases ns with
  | nil => exact absurd rfl hne
  | cons n ns =>
      rw [List.forall_mem_cons] at hns
      have hend := endsInName_join root n hns.1
      intro hempty
      have hlist := joinAll_toList ns _ hend hns.2
      rw [← joinAll_cons, hempty] at hlist
      exact hend.ne_nil (List.append_eq_nil_iff.mp hlist.symm).1

/-- The way from a root leads back. There is a way to every path that is not empty, and joined to the
    root it comes to the same absolute path, if neither the root nor the path comes to one that
    starts with exactly two slashes. The way to names in the root is these names between slashes,
    whatever characters they have. -/
theorem wayTo_leads_back (d : Disk) (root : String) :
    (∀ path : String, path ≠ "" → ¬Path.StartsWithTwo (d.absolute root).toList →
      ¬Path.StartsWithTwo (d.absolute path).toList →
        ∃ way, wayTo d root path = .ok way ∧
          d.absolute (Disk.join root way) = d.absolute path) ∧
    ∀ ns : List String, ns ≠ [] → (∀ n ∈ ns, Path.IsName n.toList) →
      wayTo d root (Disk.joinAll root ns) = .ok ("/".intercalate ns) := by
  refine ⟨fun path hpath hroot hp => ⟨d.relativeTo root path, ?_, ?_⟩, fun ns hne hns => ?_⟩
  · rw [wayTo, if_neg (by rw [String.isEmpty_iff]; exact hpath)]
  · rw [Disk.absolute, String.toList_ofList] at hroot hp
    have hcwd : Path.isAbsolute d.cwdPath = true := rfl
    have hway := Path.isAbsolute_relativeTo d.cwdPath root.toList path.toList hcwd
    -- Either path is its slashes and its names. There is one slash in front of both, and the
    -- names agree.
    rw [Disk.absolute, Disk.absolute, Disk.join, Disk.relativeTo, String.toList_ofList,
      String.toList_ofList, Path.absolute_eq d.cwdPath (Path.join _ _) hcwd,
      Path.absolute_eq d.cwdPath path.toList hcwd,
      Path.leadingSlashes_absolute_join d.cwdPath root.toList hcwd _ hway,
      Path.leadingSlashes_absolute d.cwdPath root.toList hcwd hroot,
      Path.leadingSlashes_absolute d.cwdPath path.toList hcwd hp,
      Path.names_absolute_join_relativeTo d.cwdPath root.toList path.toList hcwd]
  · have hnames : (Path.joinNames (ns.map String.toList)) = ("/".intercalate ns).toList := by
      rw [String.toList_intercalate]
      rfl
    rw [wayTo, if_neg (by rw [String.isEmpty_iff]; exact Disk.joinAll_ne_empty root ns hne hns),
      Disk.relativeTo_joinAll d root ns hne hns, hnames, String.ofList_toList]

/-- A disk whose current folder has a folder in it. -/
def nestedDisk : Disk where
  root := .folder [("w", .folder [("p", .folder [])])]
  cwd := ["w"]

/-- The way from a root written in a roundabout way goes up out of it and down to the path. -/
theorem wayTo_leads_back_roundabout :
    wayTo nestedDisk "q/..//p/" "../w/x" = .ok "../x" ∧
      nestedDisk.absolute (Disk.join "q/..//p/" "../x") = nestedDisk.absolute "../w/x" ∧
      wayTo nestedDisk "q/..//p/" (Disk.joinAll "q/..//p/" ["a\\b", "c"]) =
        .ok "a\\b/c" := by
  have hway : nestedDisk.relativeTo "q/..//p/" "../w/x" = "../x" := by decide +kernel
  rcases wayTo_leads_back nestedDisk "q/..//p/" with ⟨hback, hdown⟩
  rcases hback "../w/x" (by decide) (by decide +kernel) (by decide +kernel) with
    ⟨way, hok, hsame⟩
  have hup : wayTo nestedDisk "q/..//p/" "../w/x" = .ok "../x" := by
    rw [wayTo, hway]
    rfl
  rw [hup, Except.ok.injEq] at hok
  rw [← hok] at hsame
  refine ⟨hup, hsame, ?_⟩
  rw [hdown ["a\\b", "c"] (List.cons_ne_nil _ _) (by decide +kernel)]
  rfl

end CodeAudit
