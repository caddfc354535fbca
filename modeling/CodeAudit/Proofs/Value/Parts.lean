import CodeAudit.Finding.Basic

/-!
# Parts of Values

What a decoder can reach in a document.

A decoder takes a value apart: it looks up keys, walks through items and falls back on
defaults. Whatever it holds on the way is a part of the document, or one of a few values that
it makes up itself. So a property that a document shares with its parts, and that the few
values have, is one of everything that is decoded. `Hereditary` collects what such a property
needs, and the lemmas on it follow the ways by which a value is taken apart.

## Main definitions

* `Value.Within`: A value is part of another.
* `Value.Hereditary`: A property that a value shares with its parts.

## Theorems

* `Value.Within.trans`: Parts of parts are parts.
* `Value.Hereditary.items`, `Value.Hereditary.fieldOr`, `Value.Hereditary.listField`: What is
  walked through, looked up and listed has the property.
-/

namespace CodeAudit

namespace Value

/-- A value is part of another: it is that value, or part of an item, a key or an entry. -/
inductive Within (part : Value) : Value → Prop
  | self : Within part part
  | item (v : Value) (items : List Value) : v ∈ items → Within part v → Within part (.list items)
  | member (v : Value) (items : List Value) : v ∈ items → Within part v → Within part (.set items)
  | first (v w : Value) : Within part v → Within part (.pair v w)
  | second (v w : Value) : Within part w → Within part (.pair v w)
  | key (k v : Value) (entries : Entries) :
      (k, v) ∈ entries → Within part k → Within part (.mapping entries)
  | entry (k v : Value) (entries : Entries) :
      (k, v) ∈ entries → Within part v → Within part (.mapping entries)

/-- Parts of parts are parts. -/
theorem Within.trans {u v w : Value} (huv : Within u v) (hvw : Within v w) : Within u w := by
  -- The chain of the inner value is extended at each of its steps.
  induction hvw with
  | self => exact huv
  | item x items hx _ ih => exact .item x items hx ih
  | member x items hx _ ih => exact .member x items hx ih
  | first x y _ ih => exact .first x y ih
  | second x y _ ih => exact .second x y ih
  | key k x entries hx _ ih => exact .key k x entries hx ih
  | entry k x entries hx _ ih => exact .entry k x entries hx ih

theorem mem_of_find? (key v : Value) (entries : Entries) (h : find? key entries = some v) :
    ∃ k, (k, v) ∈ entries := by
  induction entries with
  | nil => exact nomatch h
  | cons e rest ih =>
      rcases e with ⟨k, w⟩
      rw [find?_cons] at h
      by_cases hkey : k.sameKey key = true
      · rw [if_pos hkey, Option.some.injEq] at h
        exact ⟨k, h ▸ List.mem_cons_self⟩
      · rw [if_neg hkey] at h
        rcases ih h with ⟨k', hk'⟩
        exact ⟨k', List.mem_cons_of_mem _ hk'⟩

theorem within_of_get? (key : String) (v : Value) (entries : Entries)
    (h : get? key entries = some v) : Within v (.mapping entries) := by
  rcases mem_of_find? _ v entries h with ⟨k, hmem⟩
  exact .entry k v entries hmem .self

theorem orElse_induction {P : Value → Prop} {v default : Value} (hv : P v)
    (hdefault : P default) : P (v.orElse default) := by
  unfold orElse
  by_cases htruthy : v.isTruthy = true
  · rw [if_pos htruthy]
    exact hv
  · rw [if_neg htruthy]
    exact hdefault

theorem eq_of_entriesOf (v : Value) (entries : Entries) (h : v.entriesOf = .ok entries) :
    v = .mapping entries := by
  cases v with
  | mapping es => exact congrArg _ (Except.ok.inj h)
  | _ => exact nomatch h

/-- A property that a value shares with its parts. The values that decoders make up have it
    too. -/
structure Hereditary (P : Value → Prop) : Prop where
  part : ∀ v w, P w → Within v w → P v
  null : P .null
  int : ∀ i, P (.int i)
  text : ∀ s, P (.text s)
  emptyList : P (.list [])
  emptyMapping : P (.mapping [])

namespace Hereditary

variable {P : Value → Prop} {v : Value}

/-- What a value is walked through by has the property. -/
theorem items (hP : Hereditary P) (hv : P v) (vs : List Value) (h : v.items = .ok vs) :
    ∀ x ∈ vs, P x := by
  -- A mapping is walked through by its keys, a text by its characters and bytes by their
  -- numbers. The last two are made up, so the property has to hold of all texts and numbers.
  cases v with
  | list vs' =>
      rw [Value.items, Except.ok.injEq] at h
      subst h
      exact fun x hx => hP.part x _ hv (.item x _ hx .self)
  | set vs' =>
      rw [Value.items, Except.ok.injEq] at h
      subst h
      exact fun x hx => hP.part x _ hv (.member x _ hx .self)
  | pair a b =>
      rw [Value.items, Except.ok.injEq] at h
      subst h
      exact List.forall_mem_cons.mpr ⟨hP.part a _ hv (.first a b .self),
        List.forall_mem_singleton.mpr (hP.part b _ hv (.second a b .self))⟩
  | mapping entries =>
      rw [Value.items, Except.ok.injEq] at h
      subst h
      refine List.forall_mem_map.mpr fun e he => ?_
      exact hP.part e.1 _ hv (.key e.1 e.2 entries he .self)
  | text s =>
      rw [Value.items, Except.ok.injEq] at h
      subst h
      exact List.forall_mem_map.mpr fun c _ => hP.text c.toString
  | bytes bs =>
      rw [Value.items, Except.ok.injEq] at h
      subst h
      exact List.forall_mem_map.mpr fun b _ => hP.int b.toNat
  | _ => exact nomatch h

/-- What is looked up has the property, if the default has it. -/
theorem fieldOr (hP : Hereditary P) (hv : P v) {default : Value} (hdefault : P default)
    (key : String) (w : Value) (hw : v.fieldOr key default = .ok w) : P w := by
  cases v with
  | mapping entries =>
      simp only [Value.fieldOr, field, Except.map, Except.ok.injEq] at hw
      cases hget : Value.get? key entries with
      | none =>
          rw [hget, Option.getD_none] at hw
          exact hw ▸ hdefault
      | some x =>
          rw [hget, Option.getD_some] at hw
          exact hw ▸ hP.part x _ hv (within_of_get? key x entries hget)
  | _ => exact nomatch hw

theorem demand (hP : Hereditary P) (hv : P v) (key : String) (w : Value)
    (hw : v.demand key = .ok w) : P w := by
  cases v with
  | mapping entries =>
      simp only [Value.demand] at hw
      cases hget : Value.get? key entries with
      | none =>
          rw [hget] at hw
          exact nomatch hw
      | some x =>
          rw [hget] at hw
          exact Except.ok.inj hw ▸ hP.part x _ hv (within_of_get? key x entries hget)
  | _ => exact nomatch hw

/-- The items of a list in a document have the property. -/
theorem listField (hP : Hereditary P) (hv : P v) (key : String) (vs : List Value)
    (h : Finding.listField key v = .ok vs) : ∀ x ∈ vs, P x := by
  unfold Finding.listField at h
  cases hfield : v.fieldOr key .null with
  | error e =>
      rw [hfield] at h
      exact nomatch h
  | ok w =>
      rw [hfield] at h
      -- A list that is missing, or that counts as nothing, is read as an empty one.
      exact hP.items (orElse_induction (hP.fieldOr hv hP.null key w hfield) hP.emptyList) vs h

end Hereditary

end Value

end CodeAudit
