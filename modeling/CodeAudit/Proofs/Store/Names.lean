import CodeAudit.Proofs.Digits
import CodeAudit.Proofs.Disk.Folder
import CodeAudit.Report.Store
import Mathlib.Data.List.Perm.Subperm

/-!
# Names of Report Files

That the search for a name that is not taken ends, and at such a name.

The names that are tried for a report differ in their number, and different numbers are
written differently. A folder has finitely many names, so among one more numbers than that
there is a free one. `fileName_injective` and a count are the whole argument; which names
the folder has plays no part in it.

Three kinds of names must never be confused: those of reports, the one of the latest report,
and the temporary ones. Reports and the latest one differ in their first letter, and the
temporary names are the only ones that do not end in `.json`.

## Main definitions

* `ReportStore.EndsInJson`: A name ends as those of reports do.
* `ReportStore.SearchEndsAt`: The first number whose path is free.

## Theorems

* `ReportStore.fileName_injective`: Different numbers give different names.
* `ReportStore.fileName_ne_latestName`: No report has the name of the latest one.
* `ReportStore.temporary_not_json`: Temporary names are no names of reports.
* `ReportStore.searchEndsAt_of_names`, `ReportStore.searchEndsAt_unusedPath`: The search ends at
  the first free number, in any folder and in a folder of files.
-/

namespace CodeAudit

namespace ReportStore

/-- A name ends as those of reports do. -/
def EndsInJson (name : String) : Prop :=
  ∃ front, name.toList = front ++ ".json".toList

/-- The characters in front of the ending of the name of a report. -/
def stem (endTime : Int) (number : Nat) : List Char :=
  "report-".toList ++ (toString (secondOf endTime)).toList ++
    if number = 0 then [] else '-' :: (toString number).toList

theorem fileName_toList (endTime : Int) (number : Nat) :
    (fileName endTime number).toList = stem endTime number ++ ".json".toList := by
  unfold fileName stem
  by_cases h : number = 0
  · simp only [h, if_true, String.toList_append, List.append_nil]
  · simp only [h, if_false, String.toList_append, List.append_assoc, List.cons_append]
    rfl

/-- Different numbers give different names. -/
theorem fileName_injective (endTime : Int) (m n : Nat)
    (h : fileName endTime m = fileName endTime n) : m = n := by
  have hlist : stem endTime m ++ ".json".toList = stem endTime n ++ ".json".toList := by
    rw [← fileName_toList, ← fileName_toList, h]
  -- The second and the ending are the same in both names, which leaves the numbers. Zero is
  -- not written at all, any other number with a dash in front.
  have hstem := List.append_cancel_right hlist
  unfold stem at hstem
  have hnumber := List.append_cancel_left hstem
  by_cases hm : m = 0
  · by_cases hn : n = 0
    · rw [hm, hn]
    · rw [if_pos hm, if_neg hn] at hnumber
      exact nomatch hnumber
  · by_cases hn : n = 0
    · rw [if_neg hm, if_pos hn] at hnumber
      exact nomatch hnumber
    · rw [if_neg hm, if_neg hn] at hnumber
      exact toString_nat_inj m n (String.toList_inj.mp (List.cons.inj hnumber).2)

theorem fileName_endsInJson (endTime : Int) (number : Nat) :
    EndsInJson (fileName endTime number) :=
  ⟨stem endTime number, fileName_toList endTime number⟩

theorem fileName_head (endTime : Int) (number : Nat) :
    ∃ rest, (fileName endTime number).toList = 'r' :: rest := by
  rw [fileName_toList]
  unfold stem
  exact ⟨_, rfl⟩

/-- No report has the name of the latest one. -/
theorem fileName_ne_latestName (endTime : Int) (number : Nat) :
    fileName endTime number ≠ latestName := by
  intro h
  rcases fileName_head endTime number with ⟨rest, hrest⟩
  rw [h] at hrest
  exact absurd (List.cons.inj hrest).1 (by decide)

/-! ## Temporary names -/

/-- Temporary names are no names of reports. -/
theorem temporary_not_json (name : String) : ¬ EndsInJson (name ++ ".tmp") := by
  rintro ⟨front, h⟩
  -- The names end in different letters.
  have hlast := congrArg List.getLast? h
  rw [String.toList_append, List.getLast?_append, List.getLast?_append] at hlast
  exact absurd (Option.some.inj hlast) (by decide)

theorem temporary_ne (name other : String) (h : EndsInJson other) : other ≠ name ++ ".tmp" := by
  intro heq
  exact temporary_not_json name (heq ▸ h)

theorem temporary_ne_self (name : String) : name ++ ".tmp" ≠ name := by
  intro heq
  have hlength := congrArg (fun s => s.toList.length) heq
  simp only [String.toList_append, List.length_append] at hlength
  have hsuffix : ".tmp".toList.length = 4 := by decide
  omega

/-! ## Names in a folder -/

theorem isName_of_head (name : String) (c : Char) (rest : List Char)
    (h : name.toList = c :: rest) (hc : c ≠ '.') (hslash : '/' ∉ name.toList) :
    Path.IsName name.toList := by
  refine ⟨?_, hslash, ?_, ?_⟩
  · rw [h]
    exact List.cons_ne_nil c rest
  · rw [h]
    exact fun heq => hc (List.cons.inj heq).1
  · rw [h]
    exact fun heq => hc (List.cons.inj heq).1

theorem slash_not_mem_toDigits (n : Nat) : '/' ∉ Nat.toDigits 10 n := by
  intro h
  exact absurd (isDigit_of_mem_toDigits n '/' h) (by decide)

-- A name is made of two fixed words, two numbers and dashes, and none of them has a slash.
theorem slash_not_mem_fileName (endTime : Int) (number : Nat) :
    '/' ∉ (fileName endTime number).toList := by
  have hsecond : '/' ∉ (toString (secondOf endTime)).toList := by
    rw [toString_int_toList]
    split
    · exact slash_not_mem_toDigits _
    · rw [List.mem_cons, not_or]
      exact ⟨by decide, slash_not_mem_toDigits _⟩
  have hnumber : '/' ∉ if number = 0 then [] else '-' :: (toString number).toList := by
    split
    · exact List.not_mem_nil
    · rw [List.mem_cons, not_or, toString_nat_toList]
      exact ⟨by decide, slash_not_mem_toDigits _⟩
  rw [fileName_toList]
  unfold stem
  simp only [List.mem_append, not_or]
  exact ⟨⟨⟨by decide, hsecond⟩, hnumber⟩, by decide⟩

theorem isName_fileName (endTime : Int) (number : Nat) :
    Path.IsName (fileName endTime number).toList := by
  rcases fileName_head endTime number with ⟨rest, hrest⟩
  exact isName_of_head _ 'r' rest hrest (by decide) (slash_not_mem_fileName endTime number)

theorem isName_latestName : Path.IsName latestName.toList :=
  isName_of_head _ 'l' _ rfl (by decide) (by decide)

theorem isName_temporary (name : String) (c : Char) (rest : List Char)
    (h : name.toList = c :: rest) (hc : c ≠ '.') (hslash : '/' ∉ name.toList) :
    Path.IsName (name ++ ".tmp").toList := by
  refine isName_of_head _ c (rest ++ ".tmp".toList) ?_ hc ?_
  · rw [String.toList_append, h, List.cons_append]
  · rw [String.toList_append, List.mem_append, not_or]
    exact ⟨hslash, by decide⟩

theorem isName_temporary_fileName (endTime : Int) (number : Nat) :
    Path.IsName (fileName endTime number ++ ".tmp").toList := by
  rcases fileName_head endTime number with ⟨rest, hrest⟩
  exact isName_temporary _ 'r' rest hrest (by decide) (slash_not_mem_fileName endTime number)

theorem isName_temporary_latestName : Path.IsName (latestName ++ ".tmp").toList :=
  isName_temporary _ 'l' _ rfl (by decide) (by decide)

/-! ## The folder of reports -/

theorem isName_hidden : Path.IsName ".securecode".toList :=
  ⟨by decide, by decide, by decide, by decide⟩

theorem isName_reports : Path.IsName "reports".toList :=
  ⟨by decide, by decide, by decide, by decide⟩

/-- The two names of the folder of reports are joined one after the other. -/
theorem folder_eq (root : String) :
    folder root = Disk.join (Disk.join root ".securecode") "reports" :=
  Disk.join_join root ".securecode" "reports" _ isName_hidden isName_reports (by decide)

theorem endsInName_folder (root : String) : Disk.EndsInName (folder root) := by
  rw [folder_eq]
  exact Disk.endsInName_join _ _ isName_reports

/-! ## The search -/

/-- A number is the first one whose path is free, so that a search that goes up from zero
    ends there. -/
def SearchEndsAt (d : Disk) (folder : String) (endTime : Int) (number : Nat) : Prop :=
  d.exists? (filePath folder endTime number) = false ∧
    ∀ m < number, d.exists? (filePath folder endTime m) = true

/-- As long as there is a free number among those that are tried, the first one is found. -/
theorem unusedFrom_eq (d : Disk) (folder : String) (endTime : Int) (fuel : Nat) :
    ∀ number free, number ≤ free → free < number + fuel →
      d.exists? (filePath folder endTime free) = false →
      (∀ m < number, d.exists? (filePath folder endTime m) = true) →
      ∃ found, unusedFrom d folder endTime fuel number = filePath folder endTime found ∧
        SearchEndsAt d folder endTime found := by
  induction fuel with
  | zero =>
      intro number free hle hlt
      omega
  | succ fuel ih =>
      intro number free hle hlt hfree htaken
      rw [unusedFrom]
      by_cases hhere : d.exists? (filePath folder endTime number) = true
      · rw [if_pos hhere]
        -- The number is taken and `free` is not, so there is still one ahead.
        have hne : number ≠ free := by
          intro heq
          rw [heq, hfree] at hhere
          exact Bool.noConfusion hhere
        refine ih (number + 1) free (by omega) (by omega) hfree (fun m hm => ?_)
        by_cases hlast : m = number
        · rw [hlast]
          exact hhere
        · exact htaken m (by omega)
      · rw [if_neg hhere]
        exact ⟨number, rfl, Bool.not_eq_true _ ▸ hhere, htaken⟩

/-- Among one more numbers than there are entries, one gives a name that is not taken. -/
theorem exists_free {α : Type} (entries : List (String × α)) (endTime : Int) :
    ∃ number < entries.length + 1, entries.lookup (fileName endTime number) = none := by
  refine Classical.byContradiction fun hnone => ?_
  have htaken : ∀ number < entries.length + 1,
      fileName endTime number ∈ entries.map Prod.fst := by
    intro number hlt
    refine Classical.byContradiction fun hfree => ?_
    rw [← Entry.lookup_eq_none_iff_not_mem] at hfree
    exact hnone ⟨number, hlt, hfree⟩
  -- Otherwise there would be more different names than entries.
  have hnodup : ((List.range (entries.length + 1)).map (fileName endTime)).Nodup :=
    List.Pairwise.map _ (fun m n hne heq => hne (fileName_injective endTime m n heq))
      List.nodup_range
  have hsubset : (List.range (entries.length + 1)).map (fileName endTime) ⊆
      entries.map Prod.fst := by
    intro name hname
    rcases List.mem_map.mp hname with ⟨number, hnumber, heq⟩
    rw [← heq]
    exact htaken number (List.mem_range.mp hnumber)
  have hle := (List.subperm_of_subset hnodup hsubset).length_le
  rw [List.length_map, List.length_range, List.length_map] at hle
  omega

/-- The search ends at the first free number, in a folder where the paths of the names lead to
    their entries. -/
theorem searchEndsAt_of_names {α : Type} (d : Disk) (folder : String)
    (entries : List (String × α)) (hnames : d.names folder = .ok (sortTexts (entries.map Prod.fst)))
    (endTime : Int) (hexists : ∀ number, d.exists? (filePath folder endTime number) =
      (entries.lookup (fileName endTime number)).isSome) :
    ∃ number, unusedPath d folder endTime = filePath folder endTime number ∧
      SearchEndsAt d folder endTime number := by
  rcases exists_free entries endTime with ⟨free, hlt, hfree⟩
  have hunused := hexists free
  rw [hfree] at hunused
  rw [unusedPath]
  -- The search is given one more try than there are names in the folder.
  simp only [hnames, sortTexts, length_sortBy, List.length_map]
  exact unusedFrom_eq d folder endTime _ 0 free (Nat.zero_le _) (by omega) hunused
    (fun m hm => absurd hm (Nat.not_lt_zero m))

/-- The search ends at the first free number. -/
theorem searchEndsAt_unusedPath (d : Disk) (folder : String)
    (fs : List (String × List UInt8)) (h : d.HoldsFiles folder fs) (endTime : Int) :
    ∃ number, unusedPath d folder endTime = filePath folder endTime number ∧
      SearchEndsAt d folder endTime number :=
  searchEndsAt_of_names d folder fs h.names_eq endTime fun number =>
    h.exists?_join _ (isName_fileName endTime number)

end ReportStore

end CodeAudit
