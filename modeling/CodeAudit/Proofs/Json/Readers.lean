import CodeAudit.Json.Read

/-!
# What Reading Carries

An induction over the readers of JSON.

Three readers call one another: one for values, one for the items of a list and one for the entries
of a mapping. What is said of all that they give is proved by one induction, and the induction is
the same whatever is said. `Carried` lists what it takes. It speaks of values, of the entries that
have been read so far, and of the reasons why a text is not read.

## Main definitions

* `Json.Carried`: What reading carries from the parts of a text to the whole.
* `Json.Holds`: What is said of a result.

## Theorems

* `Json.Carried.holds_readValue`: What is carried holds of values at the start of a text.
* `Json.Carried.holds_read`: What is carried holds of the value of a text.
-/

namespace CodeAudit

namespace Json

/-- What reading carries from the parts of a text to the whole. -/
structure Carried (P : Value → Prop) (E : Value.Entries → Prop) (Q : ReadError → Prop) : Prop where
  malformed : Q .malformed
  fault : ∀ negative cs e rest, readNumber negative cs = some (.error e, rest) → Q e
  number : ∀ negative cs v rest, readNumber negative cs = some (.ok v, rest) → P v
  name : ∀ cs found, readName cs = some found → P found.1
  text : ∀ s, P (.text s)
  list : ∀ items, (∀ v ∈ items, P v) → P (.list items)
  nil : E []
  put : ∀ k v entries, P v → E entries → E (Value.put (.text k) v entries)
  mapping : ∀ entries, E entries → P (.mapping entries)

/-- What is said of a result: of its value, or of the reason why there is none. -/
def Holds {α : Type} (P : α → Prop) (Q : ReadError → Prop) : Except ReadError α → Prop
  | .ok v => P v
  | .error e => Q e

namespace Carried

variable {P : Value → Prop} {E : Value.Entries → Prop} {Q : ReadError → Prop}

theorem holds_readScalar (h : Carried P E Q) (cs : List Char) :
    Holds (fun found => P found.1) Q (readScalar cs) := by
  unfold readScalar
  cases hname : readName cs with
  | some found => exact h.name cs found hname
  | none =>
      simp only
      split
      · rename_i v rest hread
        split at hread
        · exact h.number _ _ v rest hread
        · exact h.number _ _ v rest hread
      · rename_i e rest hread
        split at hread
        · exact h.fault _ _ e rest hread
        · exact h.fault _ _ e rest hread
      · exact h.malformed

-- Each reader calls the others with one unit of fuel less, so they go through one induction
-- together. Items and entries that have been read are carried along.
theorem holds_readValue (h : Carried P E Q) (fuel : Nat) :
    (∀ cs, Holds (fun found => P found.1) Q (readValue fuel cs)) ∧
    (∀ items cs, (∀ v ∈ items, P v) →
      Holds (fun found => P found.1) Q (readItems fuel items cs)) ∧
    (∀ entries cs, E entries →
      Holds (fun found => P found.1) Q (readEntries fuel entries cs)) := by
  induction fuel with
  | zero =>
      exact ⟨fun _ => h.malformed, fun _ _ _ => h.malformed, fun _ _ _ => h.malformed⟩
  | succ fuel ih =>
      rcases ih with ⟨hvalue, hitems, hentries⟩
      have hnone : ∀ v ∈ ([] : List Value), P v := fun _ hm => absurd hm List.not_mem_nil
      refine ⟨fun cs => ?_, fun items cs hread => ?_, fun entries cs hread => ?_⟩
      · unfold readValue
        split
        · split
          · exact h.text _
          · exact h.malformed
        · split
          · exact h.list [] hnone
          · exact hitems [] _ hnone
        · split
          · exact h.mapping [] h.nil
          · exact hentries [] _ h.nil
        · exact h.holds_readScalar cs
      · unfold readItems
        have hhere := hvalue cs
        cases hresult : readValue fuel cs with
        | error e =>
            rw [hresult] at hhere
            exact hhere
        | ok found =>
            rw [hresult] at hhere
            have hmore : ∀ v ∈ found.1 :: items, P v := List.forall_mem_cons.mpr ⟨hhere, hread⟩
            simp only
            split
            · exact hitems _ _ hmore
            · exact h.list _ fun v hv => hmore v (List.mem_reverse.mp hv)
            · exact h.malformed
      · unfold readEntries
        split
        · split
          · exact h.malformed
          · rename_i key behind _
            split
            · rename_i rest _
              have hhere := hvalue (skip rest)
              cases hresult : readValue fuel (skip rest) with
              | error e =>
                  rw [hresult] at hhere
                  exact hhere
              | ok found =>
                  rw [hresult] at hhere
                  have hmore := h.put (String.ofList key) found.1 entries hhere hread
                  simp only
                  split
                  · exact hentries _ _ hmore
                  · exact h.mapping _ hmore
                  · exact h.malformed
            · exact h.malformed
        · exact h.malformed

/-- What is carried holds of the value of a text. -/
theorem holds_read (h : Carried P E Q) (cs : List Char) : Holds P Q (read cs) := by
  unfold read
  have hvalue := (h.holds_readValue (2 * cs.length + 2)).1 (skip cs)
  cases hresult : readValue (2 * cs.length + 2) (skip cs) with
  | error e =>
      rw [hresult] at hvalue
      exact hvalue
  | ok found =>
      rw [hresult] at hvalue
      simp only
      split
      · exact hvalue
      · exact h.malformed

end Carried

end Json

end CodeAudit
