/-!
# Sorting

Lists in an order.

Elements are put in their places one by one. An element goes in front of the first one that
it may stand before, and the last element is placed first, so that elements of equal rank
keep the order they had.

## Main definitions

* `sortBy`: A list in an order, elements of equal rank as they were.
* `sortTexts`: Texts in the order of their characters.

## Theorems

* `length_sortBy`: Sorting keeps the number of elements.
* `mem_sortBy`: Sorting keeps the elements.
-/

namespace CodeAudit

variable {α : Type}

/-- Puts an element in front of the first one that it may stand before. -/
def insertSorted (le : α → α → Bool) (a : α) : List α → List α
  | [] => [a]
  | b :: rest => if le a b then a :: b :: rest else b :: insertSorted le a rest

/-- A list in an order. Elements of equal rank keep the order they had. -/
def sortBy (le : α → α → Bool) : List α → List α
  | [] => []
  | a :: rest => insertSorted le a (sortBy le rest)

/-- Texts in the order of their characters. -/
def sortTexts (texts : List String) : List String :=
  sortBy (fun s t => decide (s ≤ t)) texts

/-- Placing an element adds one to the length. -/
theorem length_insertSorted (le : α → α → Bool) (a : α) (xs : List α) :
    (insertSorted le a xs).length = xs.length + 1 := by
  induction xs with
  | nil => rfl
  | cons b rest ih =>
    by_cases h : le a b
    · simp [insertSorted, h]
    · simp [insertSorted, h, ih]

/-- Sorting keeps the number of elements. -/
@[simp] theorem length_sortBy (le : α → α → Bool) (xs : List α) :
    (sortBy le xs).length = xs.length := by
  induction xs with
  | nil => rfl
  | cons a rest ih => simp [sortBy, length_insertSorted, ih]

/-- Placing an element adds that element and no other. -/
theorem mem_insertSorted (le : α → α → Bool) (a x : α) (xs : List α) :
    x ∈ insertSorted le a xs ↔ x = a ∨ x ∈ xs := by
  induction xs with
  | nil => simp [insertSorted]
  | cons b rest ih =>
    by_cases h : le a b
    · simp [insertSorted, h]
    · simp [insertSorted, h, ih, or_left_comm]

/-- Sorting keeps the elements. -/
@[simp] theorem mem_sortBy (le : α → α → Bool) (x : α) (xs : List α) :
    x ∈ sortBy le xs ↔ x ∈ xs := by
  induction xs with
  | nil => simp [sortBy]
  | cons a rest ih => simp [sortBy, mem_insertSorted, ih]

end CodeAudit
