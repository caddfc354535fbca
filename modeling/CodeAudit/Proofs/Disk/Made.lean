import CodeAudit.Proofs.Store.Writes

/-!
# Folders That Are Made

Which folders are made for a folder in a folder of a project.

Folders are made along a path that is cut at its last name, again and again, until something is
there. In a project that is a folder this comes to an end at the project: its path may have slashes
at its end that are cut off, and leads to the same folder without them. So at most two folders are
made, the one that was asked for and the one it is in, and `madeFor_of_buildFolders` goes through
the cases. Whatever else is on the disk is as it was.

## Main definitions

* `Disk.NewFolder`: A folder stands where nothing stood.
* `Disk.Makes`: One folder is made, and nothing else is changed.
* `Disk.MadeFor`: A folder is there, made or not, and the one it is in.

## Theorems

* `Disk.locate_trimmed`: Slashes at the end of a path make no difference.
* `Disk.exists?_parent_join`: The path that is cut off at a name leads to the folder still.
* `Disk.makes_of_makeFolder`: A folder that is made.
* `Disk.cases_of_buildFolders`: The folder above is there, or is made first.
* `Disk.madeFor_of_buildFolders`: A folder in a folder of a project.
-/

namespace CodeAudit

namespace Disk

/-! ## Slashes at the end -/

/-- The names among the pieces of a path. -/
def stepNames (path : String) : List String :=
  ((Path.pieces path.toList).filter fun n => !n.isEmpty && n != Path.here).map String.ofList

theorem stepsOf_eq_stepNames (path : String) :
    stepsOf path = stepNames path ∨ stepsOf path = stepNames path ++ ["."] := by
  rw [stepsOf]
  split
  · exact Or.inr rfl
  · exact Or.inl rfl

theorem stepNames_trimmed (p : List Char) (k : Nat) :
    stepNames (String.ofList (p ++ List.replicate k '/')) = stepNames (String.ofList p) := by
  induction k with
  | zero => rw [List.replicate_zero, List.append_nil]
  | succ k ih =>
      -- A slash more is an empty piece more, which is no step.
      rw [← ih, List.replicate_succ', ← List.append_assoc]
      simp only [stepNames, String.toList_ofList, Path.pieces_concat_slash, List.filter_append]
      exact congrArg _ (List.append_nil _)

/-- Slashes at the end of a path to a folder make no difference. -/
theorem locate_trimmed (d : Disk) (p : List Char) (hp : p ≠ []) (k : Nat) (place : Place)
    (entries : List (String × Entry)) (hat : d.at? place = some (.folder entries)) :
    d.locate true (String.ofList (p ++ List.replicate k '/')) = .ok place ↔
      d.locate true (String.ofList p) = .ok place := by
  have hne : ∀ cs : List Char, cs ≠ [] → String.ofList cs ≠ "" := by
    intro cs hcs heq
    have hlist := congrArg String.toList heq
    rw [String.toList_ofList] at hlist
    exact hcs hlist
  -- Whether a path is absolute shows in its first character, which is the same.
  have hstart : startOf (String.ofList (p ++ List.replicate k '/')) d.cwd =
      startOf (String.ofList p) d.cwd := by
    cases p with
    | nil => exact absurd rfl hp
    | cons c p =>
        simp only [startOf, String.toList_ofList, Path.isAbsolute, List.cons_append,
          List.head?_cons]
  rw [locate_iff_leads_names d _ (hne _ (List.append_ne_nil_of_left_ne_nil hp _)) place entries hat
      _ (stepsOf_eq_stepNames _), locate_iff_leads_names d _ (hne p hp) place entries hat _
      (stepsOf_eq_stepNames _), stepNames_trimmed, hstart]

theorem isFolder_of_locate (d : Disk) (path : String) (place : Place)
    (entries : List (String × Entry)) (hplace : d.locate true path = .ok place)
    (hat : d.at? place = some (.folder entries)) : d.isFolder path = true := by
  rw [isFolder, lookup_of_locate d path place hplace, hat]

theorem exists?_of_isFolder (d : Disk) (path : String) (h : d.isFolder path = true) :
    d.exists? path = true := by
  rcases exists_of_isFolder d path h with ⟨entries, hlookup⟩
  rw [exists?, hlookup]

/-- With slashes at its end or without a path leads to a folder. -/
theorem isFolder_trimmed (d : Disk) (p : List Char) (hp : p ≠ []) (k : Nat) :
    d.isFolder (String.ofList (p ++ List.replicate k '/')) = true ↔
      d.isFolder (String.ofList p) = true := by
  constructor
  · intro h
    rcases exists_of_isFolder d _ h with ⟨entries, hlookup⟩
    rcases locate_of_lookup d _ _ hlookup with ⟨place, hplace, hat⟩
    exact isFolder_of_locate d _ place entries ((d.locate_trimmed p hp k place entries hat).mp
      hplace) hat
  · intro h
    rcases exists_of_isFolder d _ h with ⟨entries, hlookup⟩
    rcases locate_of_lookup d _ _ hlookup with ⟨place, hplace, hat⟩
    exact isFolder_of_locate d _ place entries ((d.locate_trimmed p hp k place entries hat).mpr
      hplace) hat

/-- A name is joined to a path behind a slash. -/
theorem exists_join_toList (path n : String) (hn : Path.IsName n.toList)
    (hpath : path.toList ≠ []) :
    ∃ front, (path.toList = front ∨ path.toList = front ++ ['/']) ∧
      (join path n).toList = front ++ '/' :: n.toList := by
  rw [join, String.toList_ofList, Path.join, hn.not_absolute]
  simp only [Bool.false_eq_true, if_false]
  have hempty : path.toList.isEmpty = false := by
    rw [List.isEmpty_eq_false_iff]
    exact hpath
  rw [hempty, Bool.false_or]
  by_cases hslash : (path.toList.getLast? == some '/') = true
  · rcases List.getLast?_eq_some_iff.mp (beq_iff_eq.mp hslash) with ⟨front, hfront⟩
    rw [if_pos hslash]
    exact ⟨front, Or.inr hfront, by rw [hfront, List.append_assoc, List.singleton_append]⟩
  · rw [if_neg hslash]
    exact ⟨path.toList, Or.inl rfl, rfl⟩

/-- The part of a path before a name is the path up to slashes at its end, where it is anything. -/
theorem exists_parent (front n : List Char) (hn : '/' ∉ n) :
    ∃ p k, Path.parent (front ++ '/' :: n) = p ∧ p ≠ [] ∧
      front ++ ['/'] = p ++ List.replicate k '/' := by
  -- The name holds no slash, so cutting off up to the last one takes the name only.
  have hhead : ((front ++ '/' :: n).reverse.dropWhile (· != '/')).reverse = front ++ ['/'] := by
    have hname : ∀ c ∈ n.reverse, (c != '/') = true := by
      intro c hc
      rw [bne_iff_ne]
      exact fun heq => hn (heq ▸ List.mem_reverse.mp hc)
    rw [List.reverse_append, List.reverse_cons, List.append_assoc,
      List.dropWhile_append_of_pos hname, List.singleton_append, List.dropWhile_cons_of_neg
        (by decide), List.reverse_cons, List.reverse_reverse]
  -- What is left ends in slashes, and these are cut off unless there is nothing else.
  have hcut : front ++ ['/'] =
      ((front ++ ['/']).reverse.dropWhile (· == '/')).reverse ++
        ((front ++ ['/']).reverse.takeWhile (· == '/')).reverse := by
    rw [← List.reverse_append, List.takeWhile_append_dropWhile, List.reverse_reverse]
  have hslashes : ((front ++ ['/']).reverse.takeWhile (· == '/')).reverse =
      List.replicate ((front ++ ['/']).reverse.takeWhile (· == '/')).length '/' := by
    rw [List.eq_replicate_iff, List.length_reverse]
    refine ⟨rfl, fun c hc => ?_⟩
    have hslash := List.mem_takeWhile_imp (List.mem_reverse.mp hc)
    exact eq_of_beq hslash
  rw [Path.parent]
  simp only [hhead]
  split
  · exact ⟨_, 0, rfl, List.append_ne_nil_of_right_ne_nil _ (List.cons_ne_nil _ _),
      (List.append_nil _).symm⟩
  · rename_i htrimmed
    rw [List.isEmpty_iff] at htrimmed
    exact ⟨_, _, rfl, htrimmed, by rw [← hslashes]; exact hcut⟩

/-- The path that is cut off at a name leads to the folder still. -/
theorem exists?_parent_join (d : Disk) (path n : String) (hn : Path.IsName n.toList)
    (h : d.isFolder path = true) :
    d.exists? (String.ofList (Path.parent (join path n).toList)) = true := by
  rcases exists_of_isFolder d path h with ⟨entries, hlookup⟩
  rcases locate_of_lookup d path _ hlookup with ⟨place, hplace, _⟩
  have hpath : path.toList ≠ [] := fun heq =>
    ne_empty_of_locate d true path place hplace (String.toList_inj.mp heq)
  rcases exists_join_toList path n hn hpath with ⟨front, hfront, hjoin⟩
  rcases exists_parent front n.toList hn.noSlash with ⟨p, k, hparent, hp, hslashes⟩
  -- With a slash behind it the path leads to the folder, and so without its slashes.
  have hfolder : d.isFolder (String.ofList (front ++ ['/'])) = true := by
    rcases hfront with heq | heq
    · rw [← heq]
      refine (d.isFolder_trimmed path.toList hpath 1).mpr ?_
      rw [String.ofList_toList]
      exact h
    · rw [← heq, String.ofList_toList]
      exact h
  rw [hslashes, d.isFolder_trimmed p hp k] at hfolder
  rw [hjoin, hparent]
  exact d.exists?_of_isFolder _ hfolder

/-! ## One folder -/

/-- A folder stands where nothing stood. -/
def NewFolder (d d' : Disk) (place : Place) : Prop :=
  d.at? place = none ∧ ∃ entries, d'.at? place = some (.folder entries)

/-- A folder is made at a place that a path leads to, and nothing else is changed. -/
structure Makes (d d' : Disk) (path : String) (place : Place) : Prop where
  cwd : d'.cwd = d.cwd
  missing : d.at? place = none
  located : d'.locate true path = .ok place
  empty : d'.at? place = some (.folder [])
  alike : ∀ other, other ≠ place → Entry.Alike (d.at? other) (d'.at? other)

theorem makes_of_makeFolder (d d' : Disk) (path : String) (hpath : path ≠ "") (n : String)
    (hn : Path.IsName n.toList) (h : d.makeFolder (join path n) = .ok d') :
    ∃ place above, d.locate true path = .ok place ∧ d.at? place = some (.folder above) ∧
      Makes d d' (join path n) (n :: place) := by
  have hmade := h
  rw [makeFolder] at h
  rcases exists_of_bind_ok _ _ _ h with ⟨target, htarget, h⟩
  -- Nothing stands where a folder is made. So the last name is no link, and the place is that
  -- name in the folder that the path leads to.
  cases hnone : d.at? target with
  | some x =>
      rw [hnone] at h
      cases h
  | none =>
      rw [hnone] at h
      have hlink : d.NoLinkAt (join path n) := by
        intro place hplace t ht
        rw [htarget, Except.ok.injEq] at hplace
        rw [← hplace, hnone] at ht
        cases ht
      rcases folder_of_locate_join d path hpath n hn target
        (d.locate_of_noLinkAt _ hlink target htarget) with ⟨place, above, hplace, hat⟩
      have hsame := locate_join d false path place above hplace hat n hn
        (fun hfalse => Bool.noConfusion hfalse)
      rw [htarget, Except.ok.injEq] at hsame
      subst hsame
      rw [at?_cons d place above hat n] at hnone
      rcases makeFolder_join d path place above hplace hat n hn hnone with
        ⟨made, hmake, hlocated, hempty⟩
      rw [hmade, Except.ok.injEq] at hmake
      subst hmake
      have hmissing : d.at? (n :: place) = none := by
        rw [at?_cons d place above hat n]
        exact hnone
      have hset : d.setAt (n :: place) (some (.folder [])) = d' := Except.ok.inj h
      refine ⟨place, above, hplace, hat, hset ▸ rfl, hmissing, hlocated, hempty,
        fun other hother => ?_⟩
      by_cases hbelow : n :: place <:+ other
      · -- Nothing stands below a name that stands for nothing, or in an empty folder.
        rw [at?_below d (n :: place) (noWay_of_none d _ hmissing) other hbelow hother]
        rcases hbelow with ⟨more, heq⟩
        rw [← heq, ← List.reverse_reverse more, at?_append, hempty, Option.bind_some]
        cases hmore : more.reverse with
        | nil =>
            rw [List.reverse_eq_nil_iff] at hmore
            exact absurd (by rw [← heq, hmore, List.nil_append]) hother
        | cons m rest => exact Entry.alike_refl none
      · rw [← hset]
        exact alike_setAt d place above hat n _ other hbelow

theorem cases_of_finish (d d' : Disk) (path : String)
    (h : buildFolders.finish d path = (d', none)) :
    d.makeFolder path = .ok d' ∨ d' = d ∧ d.isFolder path = true := by
  rw [buildFolders.finish] at h
  cases hmake : d.makeFolder path with
  | ok made =>
      rw [hmake] at h
      exact Or.inl (congrArg Except.ok (Prod.mk.inj h).1)
  | error e =>
      rw [hmake] at h
      by_cases hfolder : d.isFolder path = true
      · simp only [if_pos hfolder, Prod.mk.injEq] at h
        exact Or.inr ⟨h.1.symm, hfolder⟩
      · simp only [if_neg hfolder, Prod.mk.injEq, reduceCtorEq, and_false] at h

theorem eq_of_finish_error (d d' : Disk) (path : String) (e : FileError)
    (h : buildFolders.finish d path = (d', some e)) : d' = d := by
  rw [buildFolders.finish] at h
  cases hmake : d.makeFolder path with
  | ok made =>
      rw [hmake] at h
      cases (Prod.mk.inj h).2
  | error e =>
      rw [hmake] at h
      by_cases hfolder : d.isFolder path = true
      · simp only [if_pos hfolder, Prod.mk.injEq, reduceCtorEq, and_false] at h
      · simp only [if_neg hfolder, Prod.mk.injEq] at h
        exact h.1.symm

/-- A folder that has just been made has no folder in it. -/
theorem Makes.not_isFolder_join {d d' : Disk} {path : String} {place : Place}
    (h : Makes d d' path place) (hpath : path ≠ "") (n : String) (hn : Path.IsName n.toList) :
    ¬d'.isFolder (join path n) = true := by
  intro hfolder
  rcases exists_of_isFolder d' _ hfolder with ⟨entries, hlookup⟩
  rcases folder_above d' path hpath n hn _ hlookup with ⟨outer, inside, e, houter, hat, he⟩
  rw [h.located, Except.ok.injEq] at houter
  rw [← houter, h.empty, Option.some.injEq, Entry.folder.injEq] at hat
  rw [← hat] at he
  cases he

/-! ## The folders above -/

/-- Where the folder above is there, one folder is made. -/
theorem buildFolders_of_exists (d : Disk) (path : String) (fuel : Nat)
    (h : d.exists? (String.ofList (Path.parent path.toList)) = true) :
    d.buildFolders (fuel + 1) path = buildFolders.finish d path := by
  simp only [buildFolders, h, Bool.not_true, Bool.and_false, Bool.false_eq_true, if_false]

/-- Otherwise it is made first, and what becomes of that is left to the folder itself. -/
theorem cases_of_buildFolders (d d' : Disk) (path : String) (fuel : Nat)
    (h : d.buildFolders (fuel + 1) path = (d', none)) :
    buildFolders.finish d path = (d', none) ∨
      d.exists? (String.ofList (Path.parent path.toList)) = false ∧
        ∃ made mistake, d.buildFolders fuel (String.ofList (Path.parent path.toList)) =
          (made, mistake) ∧ buildFolders.finish made path = (d', none) := by
  simp only [buildFolders] at h
  split at h
  · rename_i hmissing
    rw [Bool.and_eq_true, Bool.not_eq_true'] at hmissing
    rcases hbuild : d.buildFolders fuel (String.ofList (Path.parent path.toList)) with
      ⟨made, mistake⟩
    rw [hbuild] at h
    refine Or.inr ⟨hmissing.2, made, mistake, rfl, ?_⟩
    -- A folder that came into being meanwhile is no mistake; any other mistake ends it here.
    cases mistake with
    | none => exact h
    | some e =>
        cases e with
        | «exists» => exact h
        | notFound | isFolder | notFolder | tooManyLinks => cases (Prod.mk.inj h).2
  · exact Or.inl h

/-! ## A folder in a folder -/

/-- A path leads to a folder at a place. It was there, or is new and empty, and then the one it is
    in may be new too. Nothing else is changed. -/
structure MadeFor (d d' : Disk) (path : String) (place : Place)
    (entries : List (String × Entry)) : Prop where
  cwd : d'.cwd = d.cwd
  located : d'.locate true path = .ok place
  folder : d'.at? place = some (.folder entries)
  old : d' = d ∨ entries = []
  alike : ∀ other, Entry.Alike (d.at? other) (d'.at? other) ∨
    NewFolder d d' other ∧ (other = place ∨ other = place.tail)

theorem madeFor_of_isFolder (d : Disk) (path : String) (h : d.isFolder path = true) :
    ∃ place entries, MadeFor d d path place entries := by
  rcases exists_of_isFolder d path h with ⟨entries, hlookup⟩
  rcases locate_of_lookup d path _ hlookup with ⟨place, hplace, hat⟩
  exact ⟨place, entries, rfl, hplace, hat, Or.inl rfl, fun other => Or.inl (Entry.alike_refl _)⟩

theorem Makes.madeFor {d d' : Disk} {path : String} {place : Place} (h : Makes d d' path place) :
    MadeFor d d' path place [] := by
  refine ⟨h.cwd, h.located, h.empty, Or.inr rfl, fun other => ?_⟩
  by_cases hother : other = place
  · exact Or.inr ⟨hother ▸ ⟨h.missing, [], h.empty⟩, Or.inl hother⟩
  · exact Or.inl (h.alike other hother)

/-- A folder is made, and one in it. -/
theorem Makes.madeFor_join {d d₁ d₂ : Disk} {path inner : String} {n : String} {place : Place}
    (h : Makes d d₁ path place) (h' : Makes d₁ d₂ inner (n :: place)) :
    MadeFor d d₂ inner (n :: place) [] := by
  have hne : n :: place ≠ place := by
    intro heq
    have hlength := congrArg List.length heq
    rw [List.length_cons] at hlength
    omega
  refine ⟨h'.cwd.trans h.cwd, h'.located, h'.empty, Or.inr rfl, fun other => ?_⟩
  -- The two places are different, so that at each of them only one of the steps matters.
  by_cases hinner : other = n :: place
  · subst hinner
    have hmissing : d.at? (n :: place) = none := by
      have halike := (h.alike _ hne).symm
      rw [h'.missing] at halike
      exact halike.eq fun _ heq => nomatch heq
    exact Or.inr ⟨⟨hmissing, [], h'.empty⟩, Or.inl rfl⟩
  · have hlast := h'.alike other hinner
    by_cases houter : other = place
    · subst houter
      rw [h.empty] at hlast
      exact Or.inr ⟨⟨h.missing, hlast.folder⟩, Or.inr rfl⟩
    · exact Or.inl ((h.alike other houter).trans hlast)

/-- Once a folder is made, or there, the one it is in is there. -/
theorem madeFor_of_finish (d d' : Disk) (path : String) (hpath : path ≠ "") (n : String)
    (hn : Path.IsName n.toList) (h : buildFolders.finish d (join path n) = (d', none)) :
    d.exists? path = true ∧ ∃ place entries, MadeFor d d' (join path n) place entries := by
  rcases cases_of_finish d d' _ h with hmake | ⟨heq, hfolder⟩
  · rcases makes_of_makeFolder d d' path hpath n hn hmake with ⟨place, above, hplace, hat, hmakes⟩
    have houter := isFolder_of_locate d path place above hplace hat
    exact ⟨d.exists?_of_isFolder path houter, n :: place, [], hmakes.madeFor⟩
  · rw [heq]
    rcases madeFor_of_isFolder d _ hfolder with ⟨place, entries, hmade⟩
    rcases folder_of_locate_join d path hpath n hn place hmade.located with
      ⟨outer, above, houter, hat⟩
    have hfolder := isFolder_of_locate d path outer above houter hat
    exact ⟨d.exists?_of_isFolder path hfolder, place, entries, hmade⟩

/-- The folders that are made for a folder in a folder of a project. -/
theorem madeFor_of_buildFolders (d d' : Disk) (path a b : String) (ha : Path.IsName a.toList)
    (hb : Path.IsName b.toList) (hroot : d.isFolder path = true) (fuel : Nat)
    (h : d.buildFolders (fuel + 2) (join (join path a) b) = (d', none)) :
    ∃ place entries, MadeFor d d' (join (join path a) b) place entries := by
  have hends := endsInName_join path a ha
  have hpath : path ≠ "" := by
    rintro rfl
    exact nomatch hroot
  rcases cases_of_buildFolders d d' _ _ h with hfinish | ⟨hmissing, made, mistake, houter, hfinish⟩
  · exact (madeFor_of_finish d d' _ hends.ne_empty b hb hfinish).2
  · -- The outer folder is missing, and is made in the project.
    rw [parent_join _ hends b hb] at hmissing houter
    rw [buildFolders_of_exists d _ fuel (exists?_parent_join d path a ha hroot)] at houter
    -- Making the outer folder can fail, but then the inner one cannot be made either.
    cases mistake with
    | some e =>
        rw [eq_of_finish_error d made _ e houter] at hfinish
        rw [(madeFor_of_finish d d' _ hends.ne_empty b hb hfinish).1] at hmissing
        exact nomatch hmissing
    | none =>
        rcases cases_of_finish d made _ houter with hmake | ⟨heq, _⟩
        · rcases makes_of_makeFolder d made path hpath a ha hmake with ⟨place, _, _, _, hmakes⟩
          rcases cases_of_finish made d' _ hfinish with hmake' | ⟨_, hfolder⟩
          · rcases makes_of_makeFolder made d' _ hends.ne_empty b hb hmake' with
              ⟨place', above, hplace', _, hmakes'⟩
            rw [hmakes.located, Except.ok.injEq] at hplace'
            subst hplace'
            exact ⟨b :: a :: place, [], hmakes.madeFor_join hmakes'⟩
          -- The inner folder is new too, since nothing is in the outer one yet.
          · exact absurd hfolder (hmakes.not_isFolder_join hends.ne_empty b hb)
        · rw [heq] at hfinish
          rw [(madeFor_of_finish d d' _ hends.ne_empty b hb hfinish).1] at hmissing
          exact nomatch hmissing

end Disk

end CodeAudit
