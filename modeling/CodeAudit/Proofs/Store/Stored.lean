import CodeAudit.Proofs.Json.Reading
import CodeAudit.Proofs.Store.Unreadable

/-!
# What Stored Reports Hold

That JSON has a form for the times of every finding that was read from a file.

The times of a finding are not looked at when a report is decoded: whatever stands in the
document is kept, and a later report writes it again. The file need not be one that this
program wrote. But it is read as JSON, so what is kept is plain, and it comes back the next
time as the same value.

## Main definitions

* `Ensures`: The result of a step, if there is one, has a property.

## Theorems

* `Finding.keeps_of_decode`, `Report.keeps_of_decode`: What is kept of a document are parts of
  it.
* `ReportStore.keeps_of_latest`: JSON has a form for what the latest report keeps.
-/

namespace CodeAudit

/-- The result of a step, if there is one, has a property. -/
def Ensures {ε α : Type} (Q : α → Prop) (x : Except ε α) : Prop :=
  ∀ a, x = .ok a → Q a

namespace Ensures

variable {ε α β : Type} {Q : β → Prop}

theorem pure {b : β} (h : Q b) : Ensures Q (Pure.pure b : Except ε β) :=
  fun _ heq => Except.ok.inj heq ▸ h

theorem bind {x : Except ε α} {f : α → Except ε β} (h : ∀ a, x = .ok a → Ensures Q (f a)) :
    Ensures Q (x >>= f) := by
  intro b hb
  rcases exists_of_bind_ok x f b hb with ⟨a, ha, hf⟩
  exact h a ha b hf

theorem mapM {f : α → Except ε β} (as : List α) (h : ∀ a ∈ as, Ensures Q (f a)) :
    Ensures (∀ b ∈ ·, Q b) (as.mapM f) := by
  induction as with
  | nil => exact pure fun b hb => absurd hb List.not_mem_nil
  | cons a as ih =>
      rw [List.forall_mem_cons] at h
      rw [List.mapM_cons]
      refine bind fun b hb => bind fun bs hbs => ?_
      exact pure (List.forall_mem_cons.mpr ⟨h.1 b hb, ih h.2 bs hbs⟩)

end Ensures

variable {P : Value → Prop} (hP : Value.Hereditary P) (v : Value) (hv : P v)

include hP hv

/-- The times of a finding are parts of its document. -/
theorem Finding.keeps_of_decode : Ensures (Finding.Keeps P) (decode v) := by
  unfold decode
  -- Everything in front of the times is read and not kept as it is.
  iterate 20 refine Ensures.bind fun _ _ => ?_
  refine Ensures.bind fun first hfirst => Ensures.bind fun last hlast => Ensures.bind fun _ _ => ?_
  exact Ensures.pure ⟨hP.fieldOr hv hP.null _ first hfirst, hP.fieldOr hv hP.null _ last hlast⟩

theorem Report.keeps_of_decode : Ensures (fun r => ∀ f ∈ r.findings, f.Keeps P) (decode v) := by
  unfold decode
  iterate 11 refine Ensures.bind fun _ _ => ?_
  refine Ensures.bind fun items hitems => Ensures.bind fun findings hfindings => ?_
  -- What stands behind the findings is not asked about either.
  iterate 9 refine Ensures.bind fun _ _ => ?_
  refine Ensures.pure ?_
  exact Ensures.mapM items (fun x hx => Finding.keeps_of_decode hP x
    (hP.listField hv _ items hitems x hx)) findings hfindings

omit hP hv

namespace ReportStore

/-- JSON has a form for what the findings of a stored report keep. -/
theorem keeps_of_readReport (d : Disk) (path : String) (r : Report)
    (h : readReport d path = .ok r) : ∀ f ∈ r.findings, f.Keeps Json.Plain := by
  rcases exists_of_bind_ok _ _ _ h with ⟨cs, _, h⟩
  rcases exists_of_bind_ok _ _ _ h with ⟨v, hv, h⟩
  have hread : Json.read cs = .ok v := by
    cases hjson : Json.read cs with
    | error e =>
        rw [hjson] at hv
        exact nomatch hv
    | ok w =>
        rw [hjson] at hv
        exact congrArg _ (Except.ok.inj hv)
  have hdecode : Report.decode v = .ok r := by
    unfold Report.read at h
    cases hreport : Report.decode v with
    | error e =>
        rw [hreport] at h
        cases e <;> exact nomatch h
    | ok r' =>
        rw [hreport] at h
        exact congrArg _ (Except.ok.inj h)
  exact Report.keeps_of_decode Json.hereditary_plain v (Json.plain_of_read cs v hread) r hdecode

theorem keeps_of_latest (d : Disk) (root : String) (log log' : Log) (r : Report)
    (h : (latest d root).run.run log = (.ok (some r), log')) :
    ∀ f ∈ r.findings, f.Keeps Json.Plain := by
  rw [run_latest] at h
  split_ifs at h with hfile hends
  · exact nomatch (Prod.mk.inj h).1
  · cases hread : readReport d (latestPath root) with
    | ok r' =>
        rw [hread] at h
        have hr : r' = r := Option.some.inj (Except.ok.inj (Prod.mk.inj h).1)
        exact hr ▸ keeps_of_readReport d _ r' hread
    | error e =>
        rw [hread] at h
        exact nomatch Except.ok.inj (Prod.mk.inj h).1
  · exact nomatch Except.ok.inj (Prod.mk.inj h).1

end ReportStore

end CodeAudit
