/-!
# Keyed Lists

Entries under keys, in the order in which the keys first appeared.

A summary counts findings under severities, a compliance table collects them under
frameworks. What a reader sees is the order in which the keys came up, so a plain
list of pairs is kept, with at most one pair for a key as long as it is built with
`put` and `adjust`.

## Main definitions

* `Keyed`: Entries under keys.
* `Keyed.get?`: The entry under a key.
* `Keyed.put`: Sets the entry under a key.
* `Keyed.adjust`: Changes the entry under a key, or makes one.
* `Keyed.tally`: How often each key occurs in a list.

## Theorems

* `Keyed.get?_put_self`: What was put under a key is found there.
* `Keyed.get?_put_of_ne`: Other keys are left alone.
-/

namespace CodeAudit

/-- Entries under keys, in the order in which the keys first appeared. -/
abbrev Keyed (κ : Type) (β : Type) := List (κ × β)

namespace Keyed

variable {κ β : Type} [DecidableEq κ]

/-- The entry under a key. -/
def get? (key : κ) : Keyed κ β → Option β
  | [] => none
  | (k, b) :: rest => if k = key then some b else get? key rest

/-- Changes the entry under a key, or puts one at the end. -/
def adjust (key : κ) (change : Option β → β) : Keyed κ β → Keyed κ β
  | [] => [(key, change none)]
  | (k, b) :: rest =>
    if k = key then (k, change (some b)) :: rest else (k, b) :: adjust key change rest

/-- Sets the entry under a key: in its old place if the key is there, at the end
    otherwise. -/
def put (key : κ) (b : β) (entries : Keyed κ β) : Keyed κ β :=
  adjust key (fun _ => b) entries

/-- How often each key occurs in a list, in the order of first occurrence. -/
def tally (keys : List κ) : Keyed κ Nat :=
  keys.foldl (fun entries key => adjust key (fun n => n.getD 0 + 1) entries) []

/-- What was put under a key is found there. -/
@[simp] theorem get?_put_self (key : κ) (b : β) (entries : Keyed κ β) :
    get? key (put key b entries) = some b := by
  induction entries with
  | nil => simp [put, adjust, get?]
  | cons e rest ih =>
    obtain ⟨k, c⟩ := e
    by_cases h : k = key
    · simp [put, adjust, get?, h]
    · simpa [put, adjust, get?, h] using ih

/-- Other keys are left alone. -/
theorem get?_put_of_ne (key other : κ) (b : β) (entries : Keyed κ β) (h : other ≠ key) :
    get? other (put key b entries) = get? other entries := by
  induction entries with
  | nil => simp [put, adjust, get?, Ne.symm h]
  | cons e rest ih =>
    obtain ⟨k, c⟩ := e
    by_cases hk : k = key
    · subst hk
      simp [put, adjust, get?, Ne.symm h]
    · by_cases ho : k = other
      · subst ho
        simp [put, adjust, get?, hk]
      · simpa [put, adjust, get?, hk, ho] using ih

end Keyed

end CodeAudit
