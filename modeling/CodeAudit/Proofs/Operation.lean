import CodeAudit.Project

/-!
# Runs of Operations

What an operation gives and leaves, put together from its parts.

All operations of the program have one form: they can fail, and they change a state that stays as
it is when they do. A log, a disk, the state of a search, of a scan and of the whole program are
such states. What is said here is said for all of them: a run that is made of two runs either
fails with the first one, or goes on from where the first one ended.

An operation on a part of the world is an operation on the world that gives the same and leaves
the rest alone.

## Theorems

* `run_bind`: What follows an operation that succeeds.
* `run_bind_error`: Nothing follows an operation that fails.
* `cases_of_run_bind`: An operation of two parts fails in the first one, or ends as the second one.
* `exists_of_run_bind`: An operation of two parts that succeeds is a success of both.
* `run_tryCatch`: An operation whose failures are handled.
* `Action.run_ofAttempt`, `Action.run_ofScanning`, `Action.run_ofFiling`: Operations on parts of
  a world.
-/

namespace CodeAudit

section

variable {ε σ α β : Type}

theorem run_bind_eq (x : ExceptT ε (StateM σ) α) (f : α → ExceptT ε (StateM σ) β) (s : σ) :
    (x >>= f).run.run s = match x.run.run s with
      | (.ok a, s') => (f a).run.run s'
      | (.error e, s') => (.error e, s') := by
  -- The state is below the exceptions, so it is handed on in both cases.
  have hstep : (x >>= f).run.run s = match x.run.run s with
      | (result, s') => StateT.run (ExceptT.bindCont f result) s' := rfl
  rw [hstep]
  rcases x.run.run s with ⟨result, s'⟩
  cases result with
  | ok a => rfl
  | error e => rfl

/-- What follows an operation that succeeds starts from the state it leaves. -/
theorem run_bind (x : ExceptT ε (StateM σ) α) (f : α → ExceptT ε (StateM σ) β) (s s' : σ) (a : α)
    (h : x.run.run s = (.ok a, s')) : (x >>= f).run.run s = (f a).run.run s' := by
  rw [run_bind_eq, h]

/-- Nothing follows an operation that fails. -/
theorem run_bind_error (x : ExceptT ε (StateM σ) α) (f : α → ExceptT ε (StateM σ) β) (s s' : σ)
    (e : ε) (h : x.run.run s = (.error e, s')) : (x >>= f).run.run s = (.error e, s') := by
  rw [run_bind_eq, h]

/-- An operation of two parts fails in the first one, or ends as the second one does. -/
theorem cases_of_run_bind (x : ExceptT ε (StateM σ) α) (f : α → ExceptT ε (StateM σ) β)
    (s s'' : σ) (result : Except ε β) (h : (x >>= f).run.run s = (result, s'')) :
    (∃ e, x.run.run s = (.error e, s'') ∧ result = .error e) ∨
      ∃ a s', x.run.run s = (.ok a, s') ∧ (f a).run.run s' = (result, s'') := by
  rw [run_bind_eq] at h
  rcases hx : x.run.run s with ⟨first, s'⟩
  rw [hx] at h
  cases first with
  | ok a => exact Or.inr ⟨a, s', rfl, h⟩
  | error e => exact Or.inl ⟨e, congrArg _ (Prod.mk.inj h).2, (Prod.mk.inj h).1.symm⟩

/-- An operation of two parts that succeeds is a success of both. -/
theorem exists_of_run_bind (x : ExceptT ε (StateM σ) α) (f : α → ExceptT ε (StateM σ) β)
    (s s'' : σ) (b : β) (h : (x >>= f).run.run s = (.ok b, s'')) :
    ∃ a s', x.run.run s = (.ok a, s') ∧ (f a).run.run s' = (.ok b, s'') := by
  rcases cases_of_run_bind x f s s'' _ h with ⟨e, _, hfails⟩ | hboth
  · exact nomatch hfails
  · exact hboth

/-- A step that succeeds hands its result to the next one. -/
theorem ok_bind (a : α) (f : α → Except ε β) : (Except.ok a >>= f) = f a := rfl

/-- A result of two steps that is there is one of both. -/
theorem exists_of_bind_ok (x : Except ε α) (f : α → Except ε β) (b : β)
    (h : (x >>= f) = .ok b) : ∃ a, x = .ok a ∧ f a = .ok b := by
  cases x with
  | error e => exact nomatch h
  | ok a => exact ⟨a, rfl, h⟩

/-- Results that are all there are those of a function. -/
theorem mapM_eq_map (f : α → Except ε β) (g : α → β) (as : List α)
    (h : ∀ a ∈ as, f a = .ok (g a)) : as.mapM f = .ok (as.map g) := by
  induction as with
  | nil => rfl
  | cons a as ih =>
      rw [List.forall_mem_cons] at h
      rw [List.mapM_cons, h.1, ih h.2]
      rfl

/-- The results of a list are those of its members. -/
theorem exists_of_mem_mapM (f : α → Except ε β) (as : List α) (bs : List β)
    (h : as.mapM f = .ok bs) : bs.length = as.length ∧ ∀ b ∈ bs, ∃ a ∈ as, f a = .ok b := by
  induction as generalizing bs with
  | nil =>
      rw [← Except.ok.inj h]
      exact ⟨rfl, fun b hb => absurd hb List.not_mem_nil⟩
  | cons a as ih =>
      rw [List.mapM_cons] at h
      rcases exists_of_bind_ok _ _ _ h with ⟨b, hb, h⟩
      rcases exists_of_bind_ok _ _ _ h with ⟨bs', hbs', h⟩
      rw [← Except.ok.inj h]
      refine ⟨congrArg Nat.succ (ih bs' hbs').1, fun c hc => ?_⟩
      rcases List.mem_cons.mp hc with hc | hc
      · exact ⟨a, List.mem_cons_self, hc ▸ hb⟩
      · rcases (ih bs' hbs').2 c hc with ⟨a', ha', hc⟩
        exact ⟨a', List.mem_cons_of_mem a ha', hc⟩

theorem exists_of_toOption_map (x : Except ε α) (f : α → β) (b : β)
    (h : x.toOption.map f = some b) : ∃ a, x = .ok a ∧ f a = b := by
  cases x with
  | error e => exact nomatch h
  | ok a => exact ⟨a, rfl, Option.some.inj h⟩

/-- An operation whose result shows something has returned. -/
theorem exists_run_of_toOption_map (run : Except ε α × σ) (f : α → β) (b : β)
    (h : run.1.toOption.map f = some b) : ∃ a s, run = (.ok a, s) ∧ f a = b := by
  rcases run with ⟨result, s⟩
  rcases exists_of_toOption_map result f b h with ⟨a, rfl, hb⟩
  exact ⟨a, s, rfl, hb⟩

/-- A failure is handled in the state that it leaves. -/
theorem run_tryCatch (x : ExceptT ε (StateM σ) α) (handle : ε → ExceptT ε (StateM σ) α) (s : σ) :
    (tryCatch x handle).run.run s = match x.run.run s with
      | (.ok a, s') => (.ok a, s')
      | (.error e, s') => (handle e).run.run s' := by
  rcases hx : x.run.run s with ⟨result, s'⟩
  have hrun : StateT.run (x : StateM σ (Except ε α)) s = (result, s') := hx
  simp only [tryCatch, tryCatchThe, MonadExceptOf.tryCatch, ExceptT.tryCatch, ExceptT.run_mk,
    StateT.run_bind]
  rw [hrun]
  cases result with
  | ok a => rfl
  | error e => rfl

theorem run_pure (a : α) (s : σ) :
    (pure a : ExceptT ε (StateM σ) α).run.run s = (.ok a, s) := rfl

theorem run_throw (e : ε) (s : σ) :
    (throw e : ExceptT ε (StateM σ) α).run.run s = (.error e, s) := rfl

theorem run_get (s : σ) : (get : ExceptT ε (StateM σ) σ).run.run s = (.ok s, s) := rfl

end

/-! ## Operations on parts -/

theorem run_note (e : Event) (log : Log) : (note e).run.run log = (.ok (), log ++ [e]) := rfl

/-- A world with another log. -/
def World.withLog (w : World) (log : Log) : World :=
  { w with scan := { w.scan with log } }

namespace Action

variable {α : Type}

theorem run_ofAttempt (x : Attempt α) (w : World) :
    (ofAttempt x).run.run w = ((x.run.run w.scan.log).1, w.withLog (x.run.run w.scan.log).2) := rfl

theorem run_ofScanning (x : Scanning α) (w : World) :
    (ofScanning x).run.run w = ((x.run.run w.scan).1, { w with scan := (x.run.run w.scan).2 }) :=
  rfl

theorem run_ofFiling (x : Filing α) (w : World) :
    (ofFiling x).run.run w = (((ExceptT.run x).run w.disk).1,
      { w with disk := ((ExceptT.run x).run w.disk).2 }) := rfl

theorem run_tell (e : Event) (w : World) :
    (tell e).run.run w = (.ok (), w.withLog (w.scan.log ++ [e])) := rfl

end Action

end CodeAudit
