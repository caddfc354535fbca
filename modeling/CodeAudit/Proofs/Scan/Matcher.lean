import CodeAudit.Proofs.Operation
import CodeAudit.Proofs.Report.RoundTrip

/-!
# The Matcher

That the regular expressions a matcher keeps make no difference to what is found.

A matcher is handed from one file to the next and from one scan to the next, and what it keeps
could come from anywhere. `Faithful` is the invariant: under every text is what reading that text
gives. A search that starts with a faithful matcher gives what it would give with an empty one,
and leaves a faithful matcher. `Gives` says both at once, about an operation and a result that
does not mention the state, and every operation of a search is taken through it.

So each of them has a plain function beside it: what it finds, without the state.

## Main definitions

* `regexOf`: The regular expression of a text, or none.
* `isMalformed`, `endsSearch`: Texts that are no regular expression.
* `Matcher.Faithful`: A matcher keeps what reading would give.
* `Gives`: What an operation gives whatever the matcher keeps.
* `patternMatches`, `ruleMatches`, `fileFindings`: What is found, without the state.

## Theorems

* `regexOf_cases`: A text is a regular expression, malformed, or a mistake of another kind.
* `run_compile`: A text is read as the regular expression that it is, and what that changes.
* `gives_matchContent`: The occurrences of a rule.
* `gives_findingsOf`: The findings of a file.
* `exists_of_mem_fileFindings`: A finding is an occurrence of a pattern.
* `path_of_fileFindings`: A finding shows the path of its file.
-/

namespace CodeAudit

open Pattern (Regex Subject)

/-- The regular expression of a text, or none if the text is no regular expression. -/
def regexOf (text : String) : Except Failure (Option Regex) :=
  match Pattern.parse text.toList with
  | .ok r => .ok (some r)
  | .error .malformed => .ok none
  | .error e => .error (.pattern e)

/-- A text is a regular expression, is malformed, or is a mistake of another kind. -/
theorem regexOf_cases (text : String) :
    (∃ r, Pattern.parse text.toList = .ok r ∧ regexOf text = .ok (some r)) ∨
    (Pattern.parse text.toList = .error .malformed ∧ regexOf text = .ok none) ∨
    ∃ e, Pattern.parse text.toList = .error e ∧ e ≠ .malformed ∧
      regexOf text = .error (.pattern e) := by
  rw [regexOf]
  cases Pattern.parse text.toList with
  | ok r => exact Or.inl ⟨r, rfl, rfl⟩
  | error e =>
      right
      by_cases he : e = .malformed
      · exact Or.inl ⟨by rw [he], by rw [he]⟩
      · refine Or.inr ⟨e, rfl, he, ?_⟩
        cases e with
        | malformed => exact absurd rfl he
        | _ => rfl

/-- A matcher keeps under each text what reading the text gives. -/
def Matcher.Faithful (m : Matcher) : Prop :=
  ∀ text found, Keyed.get? text m = some found → regexOf text = .ok found

theorem Matcher.faithful_nil : Matcher.Faithful [] :=
  fun _ _ h => nomatch h

theorem Matcher.Faithful.put {m : Matcher} (h : m.Faithful) (text : String)
    (found : Option Regex) (hfound : regexOf text = .ok found) :
    Matcher.Faithful (Keyed.put text found m) := by
  intro other known hknown
  by_cases hother : other = text
  · rw [hother, Keyed.get?_put_self, Option.some.injEq] at hknown
    rw [hother, ← hknown]
    exact hfound
  · rw [Keyed.get?_put_of_ne text other found m hother] at hknown
    exact h other known hknown

/-- An operation of a search gives a result with any faithful matcher, and leaves a faithful
    one. -/
def Gives {α : Type} (x : Searching α) (result : Except Failure α) : Prop :=
  ∀ s : Search, s.matcher.Faithful →
    ∃ s', x.run.run s = (result, s') ∧ s'.matcher.Faithful

namespace Gives

variable {α β : Type}

theorem pure (a : α) : Gives (Pure.pure a) (.ok a) :=
  fun s h => ⟨s, rfl, h⟩

theorem throw (e : Failure) : Gives (MonadExcept.throw e : Searching α) (.error e) :=
  fun s h => ⟨s, rfl, h⟩

theorem bind {x : Searching α} {result : Except Failure α} {f : α → Searching β}
    {next : α → Except Failure β} (hx : Gives x result)
    (hf : ∀ a, result = .ok a → Gives (f a) (next a)) :
    Gives (x >>= f) (result >>= next) := by
  intro s hs
  rcases hx s hs with ⟨s', hrun, hs'⟩
  cases result with
  | error e => exact ⟨s', run_bind_error x f s s' e hrun, hs'⟩
  | ok a =>
      rcases hf a rfl s' hs' with ⟨s'', hrun', hs''⟩
      exact ⟨s'', (run_bind x f s s' a hrun).trans hrun', hs''⟩

/-- What only tells something leaves the matcher as it is. -/
theorem ofAttempt (x : Attempt α) (result : Except Failure α)
    (hx : ∀ log, ∃ log', x.run.run log = (result, log')) :
    Gives (Searching.ofAttempt x) result := by
  intro s hs
  rcases hx s.log with ⟨log', hrun⟩
  refine ⟨{ s with log := log' }, ?_, hs⟩
  have hlift : (Searching.ofAttempt x).run.run s =
      ((x.run.run s.log).1, { s with log := (x.run.run s.log).2 }) := rfl
  rw [hlift, hrun]

end Gives

/-- A text that is no regular expression, which is told. -/
def isMalformed (text : String) : Bool :=
  regexOf text matches .ok none

/-- A text that cannot be read, which ends the search. -/
def endsSearch (text : String) : Bool :=
  regexOf text matches .error _

/-- A matcher keeps what reading a text has given. -/
def Matcher.knows (m : Matcher) (text : String) : Bool :=
  (Keyed.get? text m).isSome

theorem Matcher.knows_put (m : Matcher) (text other : String) (found : Option Regex) :
    Matcher.knows (Keyed.put text found m) other = (other == text || m.knows other) := by
  by_cases hother : other = text
  · rw [hother, knows, Keyed.get?_put_self, beq_self_eq_true, Option.isSome_some, Bool.true_or]
  · rw [knows, Keyed.get?_put_of_ne text other found m hother, beq_false_of_ne hother,
      Bool.false_or, knows]

/-- A text is read as the regular expression that it is, now or before. From then on it is known,
    and if it is malformed, that was told the first time. A text that ends the search is read anew
    each time. -/
theorem run_compile (ruleId text : String) (s : Search) (hs : s.matcher.Faithful) :
    ∃ s', (compile ruleId text).run.run s = (regexOf text, s') ∧ s'.matcher.Faithful ∧
      (∀ other, s'.matcher.knows other =
        (!endsSearch text && other == text || s.matcher.knows other)) ∧
      s'.log = s.log ++ if isMalformed text && !s.matcher.knows text
        then [.badPattern ruleId text .malformed] else [] := by
  have hget : (get : Searching Search).run.run s = (.ok s, s) := rfl
  rw [isMalformed, endsSearch]
  -- The case of a known text comes first: it is not read again, so what is kept has to be
  -- right.
  cases hknown : Keyed.get? text s.matcher with
  | some found =>
      have hknows : s.matcher.knows text = true := by rw [Matcher.knows, hknown, Option.isSome_some]
      refine ⟨s, ?_, hs, fun other => ?_, ?_⟩
      · rw [compile, run_bind _ _ s s s hget, hs text found hknown]
        simp only [hknown]
        rfl
      · by_cases hother : other = text
        · rw [hother, hknows, Bool.or_true]
        · rw [beq_false_of_ne hother, Bool.and_false, Bool.false_or]
      · rw [hknows, Bool.not_true, Bool.and_false, if_neg Bool.false_ne_true, List.append_nil]
  | none =>
      have hknows : s.matcher.knows text = false := by
        rw [Matcher.knows, hknown, Option.isSome_none]
      rw [hknows]
      cases hparse : Pattern.parse text.toList with
      | ok r =>
          have hregex : regexOf text = .ok (some r) := by rw [regexOf, hparse]
          refine ⟨{ s with matcher := Keyed.put text (some r) s.matcher }, ?_,
            hs.put text _ hregex, fun other => ?_, ?_⟩
          · rw [compile, run_bind _ _ s s s hget, hregex]
            simp only [hknown, hparse]
            rfl
          · rw [hregex]
            exact Matcher.knows_put s.matcher text other _
          · rw [hregex]
            exact (List.append_nil s.log).symm
      | error e =>
          cases e with
          -- A malformed text is kept too, as none. So it is told of once.
          | malformed =>
              have hregex : regexOf text = .ok none := by rw [regexOf, hparse]
              refine ⟨{ matcher := Keyed.put text none s.matcher,
                        log := s.log ++ [.badPattern ruleId text .malformed] }, ?_,
                hs.put text _ hregex, fun other => ?_, ?_⟩
              · rw [compile, run_bind _ _ s s s hget, hregex]
                simp only [hknown, hparse]
                rfl
              · rw [hregex]
                exact Matcher.knows_put s.matcher text other _
              · rw [hregex]
                rfl
          -- Other mistakes are not kept. They end the search, and nothing has changed.
          | _ =>
              refine ⟨s, ?_, hs, fun other => ?_, ?_⟩
              · rw [compile, run_bind _ _ s s s hget, regexOf]
                simp only [hknown, hparse]
                rfl
              · rw [regexOf, hparse]
                rfl
              · rw [regexOf, hparse]
                exact (List.append_nil s.log).symm

theorem gives_compile (ruleId text : String) : Gives (compile ruleId text) (regexOf text) := by
  intro s hs
  rcases run_compile ruleId text s hs with ⟨s', hrun, hs', _⟩
  exact ⟨s', hrun, hs'⟩

/-! ## What is found -/

/-- The occurrences of one pattern in the text of a file. -/
def patternMatches (rule : Rule) (path : String) (content : Subject) (p : RulePattern) :
    Except Failure (List Match) :=
  if p.appliesTo (String.ofList (Path.extension path.toList)) && p.kind == .regex then
    (regexOf p.text).map fun
      | some r => matchesOf rule p path content r
      | none => []
  else .ok []

/-- The occurrences of the patterns of a rule in the text of a file. -/
def ruleMatches (path : String) (content : Subject) (rule : Rule) : Except Failure (List Match) :=
  if rule.enabled then (rule.patterns.mapM (patternMatches rule path content)).map List.flatten
  else .ok []

/-- The findings of a rule in the text of a file. -/
def ruleFindings (path : String) (content : Subject) (rule : Rule) :
    Except Failure (List Finding) :=
  ruleMatches path content rule >>= fun found => .ok (found.map Match.toFinding)

/-- The findings of rules in the text of a file, one rule after the other. -/
def fileFindings (path : String) (content : Subject) (rules : List Rule) :
    Except Failure (List Finding) :=
  (rules.mapM (ruleFindings path content)).map List.flatten

theorem gives_matchPattern (rule : Rule) (path : String) (content : Subject) (p : RulePattern) :
    Gives (matchPattern rule path content p) (patternMatches rule path content p) := by
  unfold matchPattern patternMatches
  split
  -- The match on what was read is a bind, which is the form that the operation has.
  · have hbind : ∀ x : Except Failure (Option Regex),
        (x.map fun
          | some r => matchesOf rule p path content r
          | none => []) = (x >>= fun found => .ok (match found with
            | some r => matchesOf rule p path content r
            | none => [])) := by
      intro x
      cases x <;> rfl
    rw [hbind]
    refine (gives_compile rule.id p.text).bind fun found _ => ?_
    cases found with
    | some r => exact .pure _
    | none => exact .pure _
  · exact .pure _

/-- What is collected from a list comes from its first member and then from the others. -/
theorem collect_cons {α β : Type} (found : α → Except Failure (List β)) (a : α) (rest : List α) :
    ((a :: rest).mapM found).map List.flatten =
      (found a >>= fun here => (rest.mapM found).map List.flatten >>= fun more =>
        .ok (here ++ more)) := by
  rw [List.mapM_cons]
  cases found a with
  | error e => rfl
  | ok here =>
      rw [ok_bind, ok_bind]
      cases rest.mapM found with
      | error e => rfl
      | ok more => rfl

/-- Operations that go through a list one after the other give what the plain functions give. -/
theorem gives_collect {α β : Type} (run : List α → Searching (List β))
    (each : α → Searching (List β))
    (found : α → Except Failure (List β)) (hnil : run [] = Pure.pure [])
    (hcons : ∀ a rest, run (a :: rest) = do
      let here ← each a
      return here ++ (← run rest))
    (heach : ∀ a, Gives (each a) (found a)) (as : List α) :
    Gives (run as) ((as.mapM found).map List.flatten) := by
  induction as with
  | nil =>
      rw [hnil]
      exact .pure _
  | cons a rest ih =>
      rw [hcons, collect_cons]
      exact (heach a).bind fun here _ => ih.bind fun more _ => .pure _

/-- What is collected comes from one of the members. -/
theorem exists_of_mem_collect {α β : Type} (found : α → Except Failure (List β)) (as : List α)
    (xs : List β) (h : (as.mapM found).map List.flatten = .ok xs) :
    ∀ x ∈ xs, ∃ a ∈ as, ∃ ys, found a = .ok ys ∧ x ∈ ys := by
  induction as generalizing xs with
  | nil =>
      intro x hx
      rw [← Except.ok.inj h] at hx
      exact absurd hx List.not_mem_nil
  | cons a rest ih =>
      intro x hx
      rw [collect_cons] at h
      rcases exists_of_bind_ok _ _ _ h with ⟨here, hfound, h⟩
      rcases exists_of_bind_ok _ _ _ h with ⟨more, hmore, h⟩
      rw [← Except.ok.inj h, List.mem_append] at hx
      rcases hx with hx | hx
      · exact ⟨a, List.mem_cons_self, here, hfound, hx⟩
      · rcases ih more hmore x hx with ⟨b, hb, ys, hys⟩
        exact ⟨b, List.mem_cons_of_mem a hb, ys, hys⟩

/-- The occurrences of a rule in the text of a file. -/
theorem gives_matchContent (rule : Rule) (path : String) (content : Subject) :
    Gives (matchContent rule path content) (ruleMatches path content rule) := by
  unfold matchContent ruleMatches
  split
  · exact gives_collect (matchPatterns rule path content) (matchPattern rule path content) _ rfl
      (fun _ _ => rfl) (gives_matchPattern rule path content) rule.patterns
  · exact .pure _

/-- The findings of a file. -/
theorem gives_findingsOf (path : String) (content : Subject) (rules : List Rule) :
    Gives (findingsOf path content rules) (fileFindings path content rules) := by
  refine gives_collect (findingsOf path content) (fun rule => do
    let found ← matchContent rule path content
    return found.map Match.toFinding) _ rfl (fun rule rest => ?_) (fun rule => ?_) rules
  · rw [findingsOf]
    simp only [bind_assoc, pure_bind]
  · exact (gives_matchContent rule path content).bind fun found _ => .pure _

/-- An occurrence of a pattern comes from the span of a regular expression that the text of the
    pattern is. -/
theorem exists_of_mem_patternMatches (rule : Rule) (path : String) (content : Subject)
    (p : RulePattern) (ms : List Match) (h : patternMatches rule path content p = .ok ms) :
    ∀ m ∈ ms, p.appliesTo (String.ofList (Path.extension path.toList)) = true ∧
      p.kind = .regex ∧ ∃ r, regexOf p.text = .ok (some r) ∧ ∃ span ∈ r.findAll content,
        m = matchAt rule p path content.toList span := by
  intro m hm
  unfold patternMatches at h
  split at h
  -- The pattern looks at the file. It finds something only if its text is a regular expression.
  · rename_i hlooked
    rw [Bool.and_eq_true, beq_iff_eq] at hlooked
    refine ⟨hlooked.1, hlooked.2, ?_⟩
    cases hregex : regexOf p.text with
    | error e =>
        rw [hregex] at h
        exact nomatch h
    | ok found =>
        rw [hregex] at h
        rw [← Except.ok.inj h] at hm
        cases found with
        | none => exact absurd hm List.not_mem_nil
        | some r =>
            refine ⟨r, rfl, ?_⟩
            simp only [matchesOf] at hm
            split at hm
            · exact absurd hm List.not_mem_nil
            · rcases List.mem_map.mp hm with ⟨span, hspan, heq⟩
              exact ⟨span, hspan, heq.symm⟩
  · rw [← Except.ok.inj h] at hm
    exact absurd hm List.not_mem_nil

/-- A finding of a rule in the text of a file is an occurrence of one of its patterns. -/
theorem exists_of_mem_ruleFindings (path : String) (content : Subject) (rule : Rule)
    (fs : List Finding) (h : ruleFindings path content rule = .ok fs) :
    ∀ f ∈ fs, rule.enabled = true ∧ ∃ p ∈ rule.patterns,
      p.appliesTo (String.ofList (Path.extension path.toList)) = true ∧ p.kind = .regex ∧
        ∃ r, regexOf p.text = .ok (some r) ∧ ∃ span ∈ r.findAll content,
          f = (matchAt rule p path content.toList span).toFinding := by
  intro f hf
  unfold ruleFindings at h
  rcases exists_of_bind_ok _ _ _ h with ⟨ms, hms, hfound⟩
  rw [← Except.ok.inj hfound] at hf
  rcases List.mem_map.mp hf with ⟨m, hm, heq⟩
  unfold ruleMatches at hms
  split at hms
  · rename_i henabled
    rcases exists_of_mem_collect _ rule.patterns ms hms m hm with ⟨p, hp, ys, hys, hm⟩
    rcases exists_of_mem_patternMatches rule path content p ys hys m hm with
      ⟨happlies, hkind, r, hr, span, hspan, hmatch⟩
    exact ⟨henabled, p, hp, happlies, hkind, r, hr, span, hspan, by rw [← heq, hmatch]⟩
  · rw [← Except.ok.inj hms] at hm
    exact absurd hm List.not_mem_nil

/-- A finding of rules in the text of a file is an occurrence of a pattern of one of them. -/
theorem exists_of_mem_fileFindings (path : String) (content : Subject) (rules : List Rule)
    (fs : List Finding) (h : fileFindings path content rules = .ok fs) :
    ∀ f ∈ fs, ∃ rule ∈ rules, rule.enabled = true ∧ ∃ p ∈ rule.patterns,
      p.appliesTo (String.ofList (Path.extension path.toList)) = true ∧ p.kind = .regex ∧
        ∃ r, regexOf p.text = .ok (some r) ∧ ∃ span ∈ r.findAll content,
          f = (matchAt rule p path content.toList span).toFinding := by
  intro f hf
  rcases exists_of_mem_collect _ rules fs h f hf with ⟨rule, hrule, found, hfound, hf⟩
  exact ⟨rule, hrule, exists_of_mem_ruleFindings path content rule found hfound f hf⟩

/-- A finding shows the path that its file is scanned under. -/
theorem path_of_fileFindings (path : String) (content : Subject) (rules : List Rule)
    (fs : List Finding) (h : fileFindings path content rules = .ok fs) :
    ∀ f ∈ fs, f.path = path := by
  intro f hf
  rcases exists_of_mem_fileFindings path content rules fs h f hf with
    ⟨rule, _, _, p, _, _, _, r, _, span, _, heq⟩
  rw [heq]
  rfl

end CodeAudit
