import CodeAudit.Proofs.Json.Readers
import CodeAudit.Proofs.Json.RoundTrip
import CodeAudit.Proofs.Value.Parts

/-!
# Values Read from JSON

That JSON has a form for everything that is read from it.

The values that survive their text are known as `Plain`, and a value that was read is plain:
its numbers are results of rounding, its keys are texts, and a key that comes up twice keeps
its one place. So what is read and written again is read as the same value, whoever wrote the
text it was read from first.

## Theorems

* `Json.carried_plain`: Reading carries that values are plain.
* `Json.plain_of_read`: The value of a text is plain.
* `Json.hereditary_plain`: The parts of a plain value are plain.
-/

namespace CodeAudit

namespace Json

theorem isCanonical_ofDecimal (negative : Bool) (digits : Nat) (e : Int) :
    (Double.ofDecimal negative digits e).IsCanonical := by
  by_cases hzero : digits = 0
  · rw [hzero]
    exact Double.isCanonical_zero negative
  · rcases Double.ofDecimal_eq negative digits e (by omega) with ⟨n, d, _, hd, _, heq⟩
    rw [heq]
    exact Double.isCanonical_roundRatio negative n d hd

theorem plain_of_readNumber (negative : Bool) (cs : List Char) (v : Value) (rest : List Char)
    (h : readNumber negative cs = some (.ok v, rest)) : Plain v := by
  unfold readNumber at h
  cases hwhole : takeWhole cs with
  | none =>
      rw [hwhole] at h
      exact nomatch h
  | some found =>
      rcases found with ⟨whole, behind⟩
      rw [hwhole] at h
      simp only at h
      -- With a point or an exponent it is a float, rounded and so canonical. Without one it is an
      -- integer, or too long for one.
      split_ifs at h with hfloat hlong
      · rw [Option.some.injEq, Prod.mk.injEq, Except.ok.injEq] at h
        exact h.1 ▸ .float _ (isCanonical_ofDecimal _ _ _)
      · exact nomatch h
      · rw [Option.some.injEq, Prod.mk.injEq, Except.ok.injEq] at h
        exact h.1 ▸ .int _

theorem plain_of_readName (cs : List Char) (found : Value × List Char)
    (h : readName cs = some found) : Plain found.1 := by
  rcases List.exists_of_findSome?_eq_some h with ⟨p, hp, hfound⟩
  -- The names are a table, so that what they stand for is gone through once.
  have hplain : ∀ p ∈ namedValues, Plain p.2 := by
    simp only [namedValues, List.forall_mem_cons]
    exact ⟨.null, .bool _, .bool _, .float _ trivial, .float _ trivial, .float _ trivial,
      fun _ hm => absurd hm List.not_mem_nil⟩
  rcases Option.map_eq_some_iff.mp hfound with ⟨rest, _, heq⟩
  exact heq ▸ hplain p hp

/-- A key that is there keeps its place when it gets another value. -/
theorem put_of_mem (k : String) (v : Value) (hv : Plain v) (es : List (String × Value))
    (hmem : k ∈ es.map Prod.fst) (hplain : ∀ e ∈ es, Plain e.2) :
    ∃ es', Value.put (.text k) v (textEntries es) = textEntries es' ∧
      es'.map Prod.fst = es.map Prod.fst ∧ ∀ e ∈ es', Plain e.2 := by
  induction es with
  | nil => exact absurd hmem List.not_mem_nil
  | cons e es ih =>
      rw [List.forall_mem_cons] at hplain
      -- An entry that has the key is replaced where it stands; the others are passed by.
      by_cases hkey : e.1 = k
      · refine ⟨(e.1, v) :: es, ?_, rfl, List.forall_mem_cons.mpr ⟨hv, hplain.2⟩⟩
        have hsame : (Value.text e.1).sameKey (.text k) = true := beq_iff_eq.mpr hkey
        rw [textEntries, List.map_cons, Value.put, if_pos hsame]
        rfl
      · have hsame : ¬ (Value.text e.1).sameKey (.text k) = true :=
          fun heq => hkey (beq_iff_eq.mp heq)
        rw [List.map_cons, List.mem_cons] at hmem
        rcases ih (hmem.resolve_left fun heq => hkey heq.symm) hplain.2 with
          ⟨es', hes', hfst, hplain'⟩
        refine ⟨e :: es', ?_, by rw [List.map_cons, List.map_cons, hfst],
          List.forall_mem_cons.mpr ⟨hplain.1, hplain'⟩⟩
        rw [textEntries, List.map_cons, Value.put, if_neg hsame]
        exact congrArg _ hes'

/-- Entries that have been read: their keys are texts, no two of them equal. -/
def PlainEntries (entries : Value.Entries) : Prop :=
  ∃ es, entries = textEntries es ∧ (es.map Prod.fst).Nodup ∧ ∀ e ∈ es, Plain e.2

theorem plainEntries_put (k : String) (v : Value) (hv : Plain v) (entries : Value.Entries)
    (h : PlainEntries entries) : PlainEntries (Value.put (.text k) v entries) := by
  rcases h with ⟨es, rfl, hkeys, hplain⟩
  -- A key that comes up again keeps its place, so the list of keys is as before or longer by
  -- one.
  by_cases hmem : k ∈ es.map Prod.fst
  · rcases put_of_mem k v hv es hmem hplain with ⟨es', hes', hfst, hplain'⟩
    exact ⟨es', hes', hfst ▸ hkeys, hplain'⟩
  · refine ⟨es ++ [(k, v)], put_textEntries k v es hmem, ?_,
      List.forall_mem_append.mpr ⟨hplain, List.forall_mem_singleton.mpr hv⟩⟩
    rw [List.map_append]
    exact List.Nodup.append hkeys (List.nodup_singleton k)
      (List.disjoint_singleton.mpr hmem)

/-- Reading carries that values are plain. -/
theorem carried_plain : Carried Plain PlainEntries fun _ => True where
  malformed := trivial
  fault _ _ _ _ _ := trivial
  number := plain_of_readNumber
  name := plain_of_readName
  text := .text
  list := .list
  nil := ⟨[], rfl, List.nodup_nil, fun _ hm => absurd hm List.not_mem_nil⟩
  put k v entries hv hentries := plainEntries_put k v hv entries hentries
  mapping entries hentries := by
    rcases hentries with ⟨es, rfl, hkeys, hplain⟩
    exact .mapping es hkeys hplain

/-- JSON has a form for what is read from it. -/
theorem plain_of_read (cs : List Char) (v : Value) (h : read cs = .ok v) : Plain v := by
  have hread := carried_plain.holds_read cs
  rw [h] at hread
  exact hread

/-- The parts of a plain value are plain. -/
theorem plain_of_within (v w : Value) (hw : Plain w) (h : Value.Within v w) : Plain v := by
  induction h with
  | self => exact hw
  | item x items hx _ ih =>
      cases hw with
      | list _ hitems => exact ih (hitems x hx)
  | member x items hx _ ih => cases hw
  | first x y _ ih => cases hw
  | second x y _ ih => cases hw
  | key k x entries hx _ ih =>
      -- The mapping is named, since a plain value is known by its entries and not by its
      -- mapping.
      generalize hm : Value.mapping entries = m at hw
      cases hw with
      | mapping es _ _ =>
          rw [Value.mapping.inj hm] at hx
          rcases List.mem_map.mp hx with ⟨e, _, heq⟩
          exact ih ((Prod.mk.inj heq).1 ▸ .text e.1)
      | _ => exact nomatch hm
  | entry k x entries hx _ ih =>
      generalize hm : Value.mapping entries = m at hw
      cases hw with
      | mapping es _ hvalues =>
          rw [Value.mapping.inj hm] at hx
          rcases List.mem_map.mp hx with ⟨e, he, heq⟩
          exact ih ((Prod.mk.inj heq).2 ▸ hvalues e he)
      | _ => exact nomatch hm

theorem hereditary_plain : Value.Hereditary Plain where
  part := plain_of_within
  null := .null
  int := .int
  text := .text
  emptyList := .list [] fun _ hm => absurd hm List.not_mem_nil
  emptyMapping := .mapping [] List.nodup_nil fun _ hm => absurd hm List.not_mem_nil

end Json

end CodeAudit
