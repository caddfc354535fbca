import CodeAudit.Sorted
import Mathlib.Data.List.Sort

/-!
# Sorted Lists

What sorting does to a list.

The sorting of the program is insertion sort, so what is known about insertion sort holds for it.
Names are sorted where folders are listed, and reports where they are shown; both orders are total
and transitive, which is all that is asked of them.

## Theorems

* `sortBy_eq_insertionSort`: Sorting is insertion sort.
* `perm_sortBy`: Sorting changes the order only.
* `pairwise_sortBy_of`: A sorted list is in order.
* `filter_sortBy`: Members that are before each other keep their order.
* `pairwise_sortTexts`: Sorted texts are in order.
* `sortBy_map`: Sorting before or after a function that keeps the order.
* `exists_sortBy_among`: Sorting with one member more.
* `eq_of_mem_iff`, `exists_among_of_mem_iff`: Sorted lists are known by their members.
-/

namespace CodeAudit

theorem insertSorted_eq_orderedInsert {α : Type} (le : α → α → Bool) (a : α) (xs : List α) :
    insertSorted le a xs = xs.orderedInsert (fun x y => le x y = true) a := by
  induction xs with
  | nil => rfl
  | cons b rest ih => rw [insertSorted, List.orderedInsert_cons, ih]

/-- Sorting is insertion sort. -/
theorem sortBy_eq_insertionSort {α : Type} (le : α → α → Bool) (xs : List α) :
    sortBy le xs = xs.insertionSort fun x y => le x y = true := by
  induction xs with
  | nil => rfl
  | cons a rest ih =>
      rw [sortBy, List.insertionSort_cons, ih, insertSorted_eq_orderedInsert]

theorem perm_sortBy {α : Type} (le : α → α → Bool) (xs : List α) : (sortBy le xs).Perm xs := by
  rw [sortBy_eq_insertionSort]
  exact List.perm_insertionSort _ xs

/-- A sorted list is in order, if the order is total and transitive. -/
theorem pairwise_sortBy_of {α : Type} (le : α → α → Bool)
    (htotal : ∀ a b, le a b = true ∨ le b a = true)
    (htrans : ∀ a b c, le a b = true → le b c = true → le a c = true) (xs : List α) :
    (sortBy le xs).Pairwise fun a b => le a b = true := by
  have total : Std.Total fun a b => le a b = true := ⟨htotal⟩
  have trans : IsTrans α fun a b => le a b = true := ⟨htrans⟩
  rw [sortBy_eq_insertionSort]
  exact List.pairwise_insertionSort _ xs

/-- Members each of which may stand before each other keep their order. -/
theorem filter_sortBy {α : Type} (le : α → α → Bool) (p : α → Bool)
    (h : ∀ a b, p a = true → p b = true → le a b = true) (xs : List α) :
    (sortBy le xs).filter p = xs.filter p := by
  have hinsert : ∀ (a : α) (ys : List α),
      (insertSorted le a ys).filter p = (a :: ys).filter p := by
    intro a ys
    induction ys with
    | nil => rfl
    | cons b rest ih =>
        rw [insertSorted]
        by_cases hab : le a b = true
        · rw [if_pos hab]
        · -- What is passed is not one of these members, or the one that passes is not.
          rw [if_neg hab, List.filter_cons, ih]
          by_cases ha : p a = true
          · have hb : ¬p b = true := fun hb => hab (h a b ha hb)
            rw [if_neg hb, List.filter_cons_of_pos ha, List.filter_cons_of_pos ha,
              List.filter_cons_of_neg hb]
          · rw [List.filter_cons_of_neg ha, List.filter_cons_of_neg ha, List.filter_cons]
  induction xs with
  | nil => rfl
  | cons a rest ih => rw [sortBy, hinsert, List.filter_cons, List.filter_cons, ih]

/-- Sorted texts are in order. -/
theorem pairwise_sortTexts (texts : List String) : (sortTexts texts).Pairwise (· ≤ ·) := by
  have hle : ∀ s t : String, decide (s ≤ t) = true ↔ s ≤ t := fun s t => decide_eq_true_iff
  have hpairwise := pairwise_sortBy_of (fun s t : String => decide (s ≤ t))
    (fun s t => by rw [hle, hle]; exact String.le_total s t)
    (fun s t u hst htu => by rw [hle] at hst htu ⊢; exact String.le_trans hst htu) texts
  exact hpairwise.imp fun {s t} h => (hle s t).mp h

/-- Sorting by something that a function keeps, before or after the function. -/
theorem sortBy_map {α β : Type} (le : α → α → Bool) (le' : β → β → Bool) (f : α → β)
    (h : ∀ a b, le' (f a) (f b) = le a b) (xs : List α) :
    sortBy le' (xs.map f) = (sortBy le xs).map f := by
  -- Placing asks about the order only, and the order is the same on both sides.
  have hinsert : ∀ (a : α) (ys : List α),
      insertSorted le' (f a) (ys.map f) = (insertSorted le a ys).map f := by
    intro a ys
    induction ys with
    | nil => rfl
    | cons b rest ih =>
        rw [List.map_cons, insertSorted, insertSorted, h]
        by_cases hab : le a b = true
        · rw [if_pos hab, if_pos hab, List.map_cons, List.map_cons]
        · rw [if_neg hab, if_neg hab, List.map_cons, ih]
  induction xs with
  | nil => rfl
  | cons a rest ih => rw [List.map_cons, sortBy, sortBy, ih, hinsert]

/-! ## One member more -/

section

variable {α : Type} (le : α → α → Bool)

theorem insertSorted_of_le (a : α) (xs : List α) (h : ∀ x ∈ xs, le a x = true) :
    insertSorted le a xs = a :: xs := by
  cases xs with
  | nil => rfl
  | cons b rest => rw [insertSorted, if_pos (h b List.mem_cons_self)]

/-- An element is placed somewhere. -/
theorem exists_insertSorted (a : α) (xs : List α) :
    ∃ front back, xs = front ++ back ∧ insertSorted le a xs = front ++ a :: back := by
  induction xs with
  | nil => exact ⟨[], [], rfl, rfl⟩
  | cons b rest ih =>
      rw [insertSorted]
      -- It stands in front of everything, or behind some.
      split
      · exact ⟨[], b :: rest, rfl, rfl⟩
      · rcases ih with ⟨front, back, hrest, hplaced⟩
        exact ⟨b :: front, back, by rw [hrest, List.cons_append], by rw [hplaced, List.cons_append]⟩

/-- A second element is placed the same way, with the first one among the others or not. -/
theorem exists_insertSorted_among
    (htrans : ∀ a b c, le a b = true → le b c = true → le a c = true) (a x : α)
    (back : List α) (hback : ∀ y ∈ back, le x y = true) :
    ∀ front, ∃ front' back', insertSorted le a (front ++ back) = front' ++ back' ∧
      insertSorted le a (front ++ x :: back) = front' ++ x :: back' := by
  intro front
  induction front with
  | nil =>
      simp only [List.nil_append]
      rw [insertSorted]
      split
      · rename_i hax
        -- What may stand in front of the first element may stand in front of all behind it.
        refine ⟨[a], back, ?_, rfl⟩
        exact insertSorted_of_le le a back fun y hy => htrans a x y hax (hback y hy)
      · exact ⟨[], insertSorted le a back, rfl, rfl⟩
  | cons b front ih =>
      rw [List.cons_append, List.cons_append, insertSorted, insertSorted]
      split
      · exact ⟨a :: b :: front, back, rfl, rfl⟩
      · rcases ih with ⟨front', back', hplaced, hamong⟩
        exact ⟨b :: front', back', by rw [hplaced, List.cons_append],
          by rw [hamong, List.cons_append]⟩

/-- A list with one member more is sorted as without it, and the member is placed somewhere. -/
theorem exists_sortBy_among (htotal : ∀ a b, le a b = true ∨ le b a = true)
    (htrans : ∀ a b c, le a b = true → le b c = true → le a c = true) (x : α) (ys : List α) :
    ∀ xs, ∃ front back, sortBy le (xs ++ ys) = front ++ back ∧
      sortBy le (xs ++ x :: ys) = front ++ x :: back := by
  intro xs
  induction xs with
  | nil => exact exists_insertSorted le x (sortBy le ys)
  | cons a xs ih =>
      rcases ih with ⟨front, back, hsorted, hamong⟩
      have hpairwise := pairwise_sortBy_of le htotal htrans (xs ++ x :: ys)
      rw [hamong, List.pairwise_append, List.pairwise_cons] at hpairwise
      rw [List.cons_append, List.cons_append, sortBy, sortBy, hsorted, hamong]
      exact exists_insertSorted_among le htrans a x back hpairwise.2.1.1 front

end

/-- Lists of different texts in their order are the same if they have the same members. -/
theorem eq_of_mem_iff (xs ys : List String)
    (hxs : xs.Pairwise fun a b => a ≤ b ∧ a ≠ b) (hys : ys.Pairwise fun a b => a ≤ b ∧ a ≠ b)
    (hmem : ∀ y, y ∈ xs ↔ y ∈ ys) : xs = ys := by
  refine List.Perm.eq_of_pairwise (fun a b _ _ hab hba => String.le_antisymm hab.1 hba.1) hxs hys ?_
  exact (List.perm_ext_iff_of_nodup (hxs.imp And.right) (hys.imp And.right)).mpr hmem

/-- Of two lists of different texts in their order, one has one member more, which stands
    somewhere among the others. -/
theorem exists_among_of_mem_iff (xs ys : List String)
    (hxs : xs.Pairwise fun a b => a ≤ b ∧ a ≠ b) (hys : ys.Pairwise fun a b => a ≤ b ∧ a ≠ b)
    (x : String) (hx : x ∉ xs) (hmem : ∀ y, y ∈ ys ↔ y = x ∨ y ∈ xs) :
    ∃ front back, xs = front ++ back ∧ ys = front ++ x :: back := by
  rcases List.append_of_mem ((hmem x).mpr (Or.inl rfl)) with ⟨front, back, hsplit⟩
  refine ⟨front, back, ?_, hsplit⟩
  subst hsplit
  have hsub : (front ++ back).Sublist (front ++ x :: back) :=
    (List.sublist_cons_self x back).append_left front
  refine eq_of_mem_iff xs _ hxs (hys.sublist hsub) fun y => ?_
  -- The member is in neither of the two parts, as it stands between them.
  have hnodup : (front ++ x :: back).Nodup := hys.imp And.right
  rw [List.nodup_middle, List.nodup_cons] at hnodup
  have hy := hmem y
  rw [List.mem_append, List.mem_cons, or_left_comm, ← List.mem_append] at hy
  by_cases heq : y = x
  · subst heq
    exact iff_of_false hx hnodup.1
  · rw [or_iff_right heq, or_iff_right heq] at hy
    exact hy.symm

end CodeAudit
