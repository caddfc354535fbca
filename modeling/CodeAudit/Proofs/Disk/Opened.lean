import CodeAudit.Proofs.Disk.Made

/-!
# Folders That Come Into View

What is in a folder that was missing and has been made.

A folder that is made is empty, and one would think that a path on which folders had to be made
leads to an empty folder. It need not, because a path may lead up. Where `a` is missing, `a/../b`
leads nowhere; once `a` is made, it leads to whatever `b` is, which may be full.

So what has to be known of a path is that it leads up only from folders that are there already.
A path to a folder does, since it could not be followed otherwise, and a path without ways up does
for want of any. `empty_of_buildFolders` says that nothing comes into view at the end of such a
path. It is proved along the path, for every folder above it that has to be made first, and whether
all of them can be made or not.

## Main definitions

* `Disk.UpFromFolders`: A path leads up only from folders.

## Theorems

* `Disk.lookup_makeFolder`: A folder that is made is empty.
* `Disk.upFromFolders_of_isFolder`: A path to a folder leads up only from folders.
* `Disk.UpFromFolders.join`: With a name behind it a path leads up no further.
* `Disk.empty_of_buildFolders`: A folder that was missing is empty.
-/

namespace CodeAudit

namespace Disk

/-- Wherever a path leads up, it does so from a folder. -/
def UpFromFolders (d : Disk) (path : String) : Prop :=
  ∀ front back, path.toList ++ ['/'] = front ++ '/' :: (Path.up ++ '/' :: back) →
    d.isFolder (String.ofList (front ++ ['/'])) = true

/-! ## Paths to folders -/

theorem startOf_congr (a b : String) (h : a.toList.head? = b.toList.head?) (place : Place) :
    startOf a place = startOf b place := by
  rw [startOf, startOf, Path.isAbsolute, Path.isAbsolute, h]

theorem ofList_slash_ne_empty (front : List Char) : String.ofList (front ++ ['/']) ≠ "" := by
  intro hnil
  have hlist := congrArg String.toList hnil
  rw [String.toList_ofList] at hlist
  exact List.append_ne_nil_of_right_ne_nil _ (List.cons_ne_nil _ _) hlist

/-- The names of a path that leads up are those before and behind, and the two dots. -/
theorem stepNames_up (path : String) (front back : List Char)
    (h : path.toList ++ ['/'] = front ++ '/' :: (Path.up ++ '/' :: back)) :
    ∃ more, stepNames path = stepNames (String.ofList (front ++ ['/'])) ++ ".." :: more := by
  have hpieces : Path.pieces path.toList ++ [[]] =
      Path.pieces front ++ Path.up :: Path.pieces back := by
    rw [← Path.pieces_concat_slash, h, Path.pieces, Path.piecesFrom_append]
    refine congrArg _ ?_
    rw [Path.pieces, Path.piecesFrom_append]
    rfl
  have hnames : stepNames path = ((Path.pieces path.toList ++ [[]]).filter
      fun n : List Char => !n.isEmpty && n != Path.here).map String.ofList := by
    rw [List.filter_append, List.filter_singleton]
    exact congrArg _ (List.append_nil _).symm
  refine ⟨stepNames (String.ofList back), ?_⟩
  have hfront := stepNames_trimmed front 1
  rw [List.replicate_one] at hfront
  rw [hnames, hpieces, hfront, List.filter_append, List.filter_cons_of_pos (by decide),
    List.map_append, List.map_cons, stepNames, stepNames, String.toList_ofList,
    String.toList_ofList]
  rfl

/-- What can be followed as a path leads up only from folders. -/
theorem upFromFolders_of_isFolder (d : Disk) (path : String) (h : d.isFolder path = true) :
    d.UpFromFolders path := by
  intro front back heq
  rcases exists_of_isFolder d path h with ⟨entries, hlookup⟩
  rcases locate_of_lookup d path _ hlookup with ⟨place, hplace, hat⟩
  have hpath := ne_empty_of_locate d true path place hplace
  rcases stepNames_up path front back heq with ⟨more, hnames⟩
  rw [locate_iff_leads_names d path hpath place entries hat _ (stepsOf_eq_stepNames path),
    hnames] at hplace
  -- The way to the folder goes through the place that the path leads up from.
  rcases hplace.exists_of_append _ _ rfl (List.cons_ne_nil _ _) with ⟨outer, _, houter, hlast⟩
  rcases hlast.folder with ⟨above, habove⟩
  have hhead : path.toList.head? = (String.ofList (front ++ ['/'])).toList.head? := by
    have hcs := congrArg List.head? heq
    rw [List.head?_append_of_ne_nil _ fun hnil => hpath (String.toList_inj.mp hnil)] at hcs
    rw [hcs, String.toList_ofList]
    cases front with
    | nil => rfl
    | cons c front => rfl
  refine isFolder_of_locate d _ outer above ?_ habove
  rw [locate_iff_leads_names d _ (ofList_slash_ne_empty front) outer above habove _
    (stepsOf_eq_stepNames _), ← startOf_congr _ _ hhead]
  exact houter

/-! ## Names behind a path -/

/-- A way up in front of the last piece of a path is in front of its slash. -/
theorem exists_of_up (front n f back : List Char) (hn : '/' ∉ n) (hup : n ≠ Path.up)
    (h : front ++ '/' :: (n ++ ['/']) = f ++ '/' :: (Path.up ++ '/' :: back)) :
    ∃ back', front ++ ['/'] = f ++ '/' :: (Path.up ++ '/' :: back') := by
  have hcut : (front ++ ['/']) ++ (n ++ ['/']) = (f ++ '/' :: Path.up ++ ['/']) ++ back := by
    simpa only [List.append_assoc, List.cons_append, List.nil_append] using h
  have hback : ∀ back', f ++ '/' :: Path.up ++ ['/'] ++ back' =
      f ++ '/' :: (Path.up ++ '/' :: back') := by
    intro back'
    simp only [List.append_assoc, List.cons_append, List.nil_append]
  -- The path is cut at its last slash and behind the dots, and one of the cuts comes first.
  rcases List.append_eq_append_iff.mp hcut with ⟨a, hup', hlast⟩ | ⟨c, hfront, _⟩
  · rcases List.eq_nil_or_concat' a with rfl | ⟨a, x, rfl⟩
    · exact ⟨[], by rw [← hback, hup', List.append_nil, List.append_nil]⟩
    · -- The slash behind the dots would be in the last piece, or else that is the dots.
      rw [← List.append_assoc] at hup'
      rcases List.append_inj' hup' rfl with ⟨hdots, hx⟩
      rw [← hx, List.append_assoc, List.singleton_append] at hlast
      rcases List.eq_nil_or_concat' back with rfl | ⟨back, y, rfl⟩
      · have hpieces := congrArg Path.pieces hdots
        rw [← List.append_inj_left' hlast rfl, List.append_assoc, List.singleton_append,
          Path.pieces_append front n hn, Path.pieces_append f _ (by decide)] at hpieces
        exact absurd (List.singleton_inj.mp (List.append_inj_right' hpieces rfl)).symm hup
      · rw [← List.cons_append, ← List.append_assoc] at hlast
        refine absurd ?_ hn
        rw [List.append_inj_left' hlast rfl]
        exact List.mem_append_right a List.mem_cons_self
  · exact ⟨c, by rw [hfront, hback]⟩

/-- A name alone does not lead up. -/
theorem upFromFolders_of_isName (d : Disk) (n : String) (hn : Path.IsName n.toList) :
    d.UpFromFolders n := by
  intro front back heq
  have hcut := congrArg List.dropLast heq
  rw [List.dropLast_concat, List.dropLast_append_of_ne_nil (List.cons_ne_nil _ _),
    List.dropLast_cons_of_ne_nil (by simp)] at hcut
  refine absurd ?_ hn.noSlash
  rw [hcut]
  exact List.mem_append_right front List.mem_cons_self

/-- With a name behind it a path leads up no further. -/
theorem UpFromFolders.join {d : Disk} {path : String} (h : d.UpFromFolders path) (n : String)
    (hn : Path.IsName n.toList) : d.UpFromFolders (join path n) := by
  by_cases hpath : path = ""
  · have hjoin : Disk.join path n = n := by
      rw [hpath, Disk.join, Path.join, hn.not_absolute]
      exact String.ofList_toList
    rw [hjoin]
    exact upFromFolders_of_isName d n hn
  · intro f back heq
    rcases exists_join_toList path n hn (fun hnil => hpath (String.toList_inj.mp hnil)) with
      ⟨front, hfront, hjoin⟩
    rw [hjoin, List.append_assoc, List.cons_append] at heq
    rcases exists_of_up front _ f back hn.noSlash hn.ne_up heq with ⟨back', hup⟩
    rcases hfront with hfront | hfront
    · exact h f back' (hfront ▸ hup)
    · refine h f (back' ++ ['/']) ?_
      rw [hfront, hup]
      simp only [List.append_assoc, List.cons_append]

/-! ## Folders above -/

/-- A path that has a part before its last piece has a slash. -/
theorem exists_of_parent (cs : List Char) (h : Path.parent cs ≠ []) :
    ∃ front n, cs = front ++ '/' :: n ∧ '/' ∉ n := by
  have hslash : '/' ∈ cs := by
    by_contra hnot
    have hdrop : cs.reverse.dropWhile (· != '/') = [] := by
      rw [List.dropWhile_eq_nil_iff]
      intro c hc
      rw [bne_iff_ne]
      exact fun heq => hnot (heq ▸ List.mem_reverse.mp hc)
    refine h ?_
    rw [Path.parent, hdrop]
    rfl
  rcases List.eq_append_cons_of_mem (List.mem_reverse.mpr hslash) with ⟨back, front, heq, hback⟩
  refine ⟨front.reverse, back.reverse, ?_, ?_⟩
  · rw [← List.reverse_reverse cs, heq, List.reverse_append, List.reverse_cons, List.append_assoc,
      List.singleton_append]
  · rw [List.mem_reverse]
    exact hback

section

variable {d : Disk} {path : String} {front n p : List Char} {k : Nat}
  (hpath : path.toList = front ++ '/' :: n)

include hpath

/-- A path to a folder without a name at its end leads where its beginning leads. -/
theorem locate_cut (hn : n = [] ∨ n = Path.here) (place : Place)
    (entries : List (String × Entry)) (hat : d.at? place = some (.folder entries)) :
    d.locate true path = .ok place ↔
      d.locate true (String.ofList (front ++ ['/'])) = .ok place := by
  have hne : path ≠ "" := by
    rintro rfl
    exact List.append_ne_nil_of_right_ne_nil _ (List.cons_ne_nil _ _) hpath.symm
  have hhead : path.toList.head? = (String.ofList (front ++ ['/'])).toList.head? := by
    rw [hpath, String.toList_ofList]
    cases front with
    | nil => rfl
    | cons c front => rfl
  have hnoSlash : '/' ∉ n := by
    rcases hn with rfl | rfl <;> decide
  have hnames : stepNames path = stepNames (String.ofList (front ++ ['/'])) := by
    rw [stepNames, stepNames, hpath, String.toList_ofList, Path.pieces_append front n hnoSlash,
      Path.pieces_concat_slash, List.filter_append, List.filter_append]
    rcases hn with rfl | rfl
    · rfl
    · rfl
  -- Paths to a folder are followed by their names, which are the same ones.
  rw [locate_iff_leads_names d _ hne place entries hat _ (stepsOf_eq_stepNames _),
    locate_iff_leads_names d _ (ofList_slash_ne_empty front) place entries hat _
      (stepsOf_eq_stepNames _), hnames, startOf_congr _ _ hhead]

variable (hslashes : front ++ ['/'] = p ++ List.replicate k '/')

include hslashes

/-- The part of a path before its last piece leads up where the path does. -/
theorem UpFromFolders.parent (h : d.UpFromFolders path) : d.UpFromFolders (String.ofList p) := by
  intro f back heq
  rw [String.toList_ofList] at heq
  -- With a slash behind it the part is the beginning of the path, and so are the ways up in it.
  have hup : ∃ back', front ++ ['/'] = f ++ '/' :: (Path.up ++ '/' :: back') := by
    cases k with
    | succ k =>
        refine ⟨back ++ List.replicate k '/', ?_⟩
        rw [hslashes, List.replicate_succ, ← List.singleton_append, ← List.append_assoc, heq]
        simp only [List.append_assoc, List.cons_append]
    | zero =>
        rw [List.replicate_zero, List.append_nil] at hslashes
        rw [← hslashes] at heq
        rcases List.eq_nil_or_concat' back with hnil | ⟨back', c, hback⟩
        · -- The two dots are no slash.
          rw [hnil, ← List.cons_append, ← List.append_assoc] at heq
          have hlast := congrArg List.getLast? (List.append_inj_left' heq rfl)
          rw [List.getLast?_append, List.getLast?_append] at hlast
          cases hlast
        · refine ⟨back', ?_⟩
          have hconcat : f ++ '/' :: (Path.up ++ '/' :: back) =
              (f ++ '/' :: (Path.up ++ '/' :: back')) ++ [c] := by
            rw [hback]
            simp only [List.append_assoc, List.cons_append]
          exact List.append_inj_left' (heq.trans hconcat) rfl
  rcases hup with ⟨back', hup⟩
  refine h f (back' ++ (n ++ ['/'])) ?_
  calc path.toList ++ ['/'] = (front ++ ['/']) ++ (n ++ ['/']) := by
        rw [hpath, List.append_assoc, List.append_assoc]
        rfl
    _ = f ++ '/' :: (Path.up ++ '/' :: (back' ++ (n ++ ['/']))) := by
        rw [hup]
        simp only [List.append_assoc, List.cons_append]

/-- Where the part of a path before its last piece leads to an empty folder, the path leads to no
    other folder, unless it leads up. -/
theorem empty_of_parent (hp : p ≠ []) (hn : '/' ∉ n) (hup : n ≠ Path.up)
    (h : ∀ entries, d.lookup (String.ofList p) = .ok (.folder entries) → entries = [])
    (entries : List (String × Entry)) (hlookup : d.lookup path = .ok (.folder entries)) :
    entries = [] := by
  have habove : ∀ place above, d.locate true (String.ofList (front ++ ['/'])) = .ok place →
      d.at? place = some (.folder above) → above = [] := by
    intro place above hplace hat
    rw [hslashes, d.locate_trimmed p hp k place above hat] at hplace
    refine h above ?_
    rw [lookup_of_locate d _ place hplace, hat]
  by_cases hname : n = [] ∨ n = Path.here
  · rcases locate_of_lookup d path _ hlookup with ⟨place, hplace, hat⟩
    exact habove place entries ((locate_cut hpath hname place entries hat).mp hplace) hat
  · -- A name is under no name of an empty folder.
    rw [not_or] at hname
    have hisName : Path.IsName (String.ofList n).toList := by
      rw [String.toList_ofList]
      exact ⟨hname.1, hn, hname.2, hup⟩
    have hjoin : join (String.ofList (front ++ ['/'])) (String.ofList n) = path := by
      apply String.toList_inj.mp
      rw [join, String.toList_ofList, Path.join, hisName.not_absolute, String.toList_ofList,
        String.toList_ofList, hpath]
      simp
    rw [← hjoin] at hlookup
    rcases folder_above d _ (ofList_slash_ne_empty front) _ hisName _ hlookup with
      ⟨place, above, e, hplace, hat, he⟩
    rw [habove place above hplace hat] at he
    cases he

end

/-! ## Folders that are made -/

/-- A folder that is made is empty. -/
theorem lookup_makeFolder (d d' : Disk) (path : String) (h : d.makeFolder path = .ok d') :
    d'.lookup path = .ok (.folder []) := by
  have hgrows := (grows_makeFolder d d' path h).1
  rw [makeFolder] at h
  rcases exists_of_bind_ok _ _ _ h with ⟨place, hplace, h⟩
  cases hnone : d.at? place with
  | some x =>
      rw [hnone] at h
      cases h
  | none =>
      rw [hnone] at h
      have hfolder : ∀ entries, d.at? place ≠ some (.folder entries) := by
        rw [hnone]
        exact fun _ heq => by cases heq
      rcases (isEnd_of_locate d false path place hplace).name hfolder with
        ⟨n, above, entries, rfl, hn, hat⟩
      -- Nothing stood there before, and a folder does now, so no link is followed at the end.
      have hempty : d'.at? (n :: above) = some (.folder []) := by
        rw [← Except.ok.inj h, at?_setAt_name d n above entries hat, Entry.lookup_setName_self]
      have hlocate := d.locate_of_noLinkAt path (fun other hother t ht => by
        rw [hplace, Except.ok.injEq] at hother
        rw [← hother, hnone] at ht
        cases ht) _ hplace
      have hways : SameWays d d' := ⟨hgrows.cwd, fun other x hx _ => hgrows.alike other x hx⟩
      have hlocate' := locate_of_sameWays d d' hways true path _ hlocate fun _ t ht => by
        rw [hempty] at ht
        cases ht
      rw [lookup_of_locate d' path _ hlocate', hempty]

/-- Making the last folder of a path leaves no other than an empty one. -/
theorem empty_of_finish (d : Disk) (path : String)
    (h : ∀ entries, d.lookup path = .ok (.folder entries) → entries = [])
    (entries : List (String × Entry))
    (hlookup : (buildFolders.finish d path).1.lookup path = .ok (.folder entries)) :
    entries = [] := by
  rw [buildFolders.finish] at hlookup
  cases hmake : d.makeFolder path with
  | ok d' =>
      simp only [hmake, lookup_makeFolder d d' path hmake, Except.ok.injEq,
        Entry.folder.injEq] at hlookup
      exact hlookup.symm
  | error e =>
      simp only [hmake] at hlookup
      refine h entries ?_
      split at hlookup
      · exact hlookup
      · exact hlookup

/-- Where a folder was missing, there is an empty one at most once the folders of its path have
    been made, as far as they can be. -/
theorem empty_of_buildFolders (fuel : Nat) :
    ∀ (d : Disk) (path : String), d.UpFromFolders path → d.isFolder path = false →
      ∀ entries, (d.buildFolders fuel path).1.lookup path = .ok (.folder entries) →
        entries = [] := by
  have hmissing : ∀ (d : Disk) (path : String), d.isFolder path = false → ∀ entries,
      d.lookup path = .ok (.folder entries) → entries = [] := by
    intro d path hnot entries hlookup
    rw [isFolder, hlookup] at hnot
    cases hnot
  -- The induction goes up the path: the folder above is empty, if it was missing, for the same
  -- reason, and an empty folder has none in it.
  induction fuel with
  | zero => exact fun d path _ hnot => hmissing d path hnot
  | succ fuel ih =>
      intro d path hup hnot entries hlookup
      rw [buildFolders] at hlookup
      split at hlookup
      · rename_i habove
        rw [Bool.and_eq_true, Bool.and_eq_true, Bool.not_eq_true', Bool.not_eq_true'] at habove
        rcases habove with ⟨⟨hempty, _⟩, hexists⟩
        have hparent : Path.parent path.toList ≠ [] := by
          intro hnil
          rw [hnil] at hempty
          cases hempty
        rcases exists_of_parent _ hparent with ⟨front, n, hpath, hn⟩
        rcases exists_parent front n hn with ⟨p, k, hp, hne, hslashes⟩
        rw [hpath, hp] at hlookup hexists
        have habove : ¬d.isFolder (String.ofList p) = true := by
          intro hfolder
          rw [exists?_of_isFolder d _ hfolder] at hexists
          cases hexists
        -- The path does not lead up here, because there is nothing to lead up from.
        have hnup : n ≠ Path.up := by
          rintro rfl
          have hfolder := hup front [] (by rw [hpath, List.append_assoc]; rfl)
          rw [hslashes] at hfolder
          exact habove ((isFolder_trimmed d p hne k).mp hfolder)
        have hmade := ih d (String.ofList p) (hup.parent hpath hslashes)
          (Bool.eq_false_iff.mpr habove)
        have hlast := empty_of_parent hpath hslashes hne hn hnup hmade
        split at hlookup
        · rename_i made heq
          rw [heq] at hlast
          exact empty_of_finish made path hlast entries hlookup
        · rename_i made heq
          rw [heq] at hlast
          exact empty_of_finish made path hlast entries hlookup
        · rename_i made e _ heq
          rw [heq] at hlast
          exact hlast entries hlookup
      · exact empty_of_finish d path (hmissing d path hnot) entries hlookup

end Disk

end CodeAudit
