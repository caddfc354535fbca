import CodeAudit.Proofs.Scan.Matcher

/-!
# Patterns That Are Skipped

What a pattern costs that is no regular expression.

The patterns of a rule are looked for one after the other. One whose text is malformed is passed
over: it has no occurrences, the others are looked for all the same, and a warning tells of it. The
warning comes once for a text, and the matcher is what remembers that it came. So the log of a
search is told by the matcher that it started with, and `Warns` says for some texts which of them
are warned about and what the matcher knows then. It holds of one text by `run_compile`, and of
several by putting the first one in front of the others.

Not every text that is no regular expression is malformed. A number in it may be too large or too
long, or its switches may exclude one another, and then the search ends with that mistake. There is
no warning, the patterns behind it are not looked for, and what was found before is lost.

## Main definitions

* `RulePattern.isSoughtIn`: A pattern is looked for in a file.
* `occurrencesIn`: The occurrences of a pattern that is no mistake.
* `triedTexts`: The texts that are read in a search.
* `newlyMalformed`: The texts that are warned about.
* `Warns`: What reading some texts changes.
* `Search.Reached`: What a matcher knows and has told.

## Theorems

* `Warns.cons`: A text in front of others.
* `run_matchPatterns`: What is found and told by looking for patterns.
* `Search.Reached.told`: What a matcher knows to be malformed was told.
* `content_of_reached`: What a rule finds in a file, and what is told about its patterns.
* `not_content_of_repetition`: A rule of a document whose patterns are not all looked for.
-/

namespace CodeAudit

open Pattern (Regex Subject)

/-- A pattern is looked for in a file: it is a regular expression by its kind, and is meant for
    files with that extension. -/
def RulePattern.isSoughtIn (path : String) (p : RulePattern) : Bool :=
  p.appliesTo (String.ofList (Path.extension path.toList)) && p.kind == .regex

/-- The occurrences of a pattern in the text of a file. There are none if the pattern is not looked
    for, or if its text is no regular expression. -/
def occurrencesIn (rule : Rule) (path : String) (content : Subject) (p : RulePattern) :
    List Match :=
  if p.isSoughtIn path then
    match Pattern.parse p.text.toList with
    | .ok r => matchesOf rule p path content r
    | .error _ => []
  else []

theorem isMalformed_iff (text : String) :
    isMalformed text = true ↔ Pattern.parse text.toList = .error .malformed := by
  rw [isMalformed]
  rcases regexOf_cases text with
    ⟨r, hparse, hregex⟩ | ⟨hparse, hregex⟩ | ⟨e, hparse, he, hregex⟩
  · simp [hparse, hregex]
  · simp [hparse, hregex]
  · simp [hparse, hregex, he]

theorem isMalformed_of_endsSearch (text : String) (h : endsSearch text = true) :
    isMalformed text = false := by
  rw [endsSearch] at h
  rw [isMalformed]
  cases hregex : regexOf text with
  | error e => rfl
  | ok found => simp [hregex] at h

/-- A pattern is looked for in a file, and its text ends the search. -/
def RulePattern.stops (path : String) (p : RulePattern) : Bool :=
  p.isSoughtIn path && endsSearch p.text

/-- The texts that are read when patterns are looked for in a file: those in front of the first one
    that ends the search. -/
def triedTexts (path : String) (ps : List RulePattern) : List String :=
  ((ps.takeWhile fun p => !p.stops path).filter (·.isSoughtIn path)).map RulePattern.text

/-- The malformed ones of some texts that a matcher does not know yet, each once. -/
def newlyMalformed (m : Matcher) (texts : List String) : List String :=
  (texts.filter fun text => isMalformed text && !m.knows text).eraseDups

/-- Of a text and others, the first is warned about if it has to be, and then it is known. -/
theorem newlyMalformed_cons (m m' : Matcher) (text : String) (texts : List String)
    (hknown : ∀ other, m'.knows other = (other == text || m.knows other)) :
    newlyMalformed m (text :: texts) =
      (if isMalformed text && !m.knows text then [text] else []) ++ newlyMalformed m' texts := by
  have hlater : ∀ other, (isMalformed other && !m'.knows other) =
      (!(other == text) && (isMalformed other && !m.knows other)) := by
    intro other
    rw [hknown, Bool.not_or, Bool.and_left_comm]
  rw [newlyMalformed, newlyMalformed, List.filter_cons]
  simp only [hlater]
  split
  -- The text is warned about. Then it is known, so it is no further time among the others.
  · rw [List.eraseDups_cons, List.filter_filter]
    rfl
  · rename_i htold
    -- The text is not warned about, so it makes no difference that it is known from here on.
    congr 1
    refine List.filter_congr fun other _ => ?_
    by_cases hother : other = text
    · rw [hother, Bool.eq_false_of_not_eq_true htold, Bool.and_false]
    · rw [beq_false_of_ne hother, Bool.not_false, Bool.true_and]

/-- What reading some texts changes, none of which ends the search: all of them are known, and there
    is a warning about each of the malformed ones that was not known before. -/
structure Warns (ruleId : String) (texts : List String) (s s' : Search) : Prop where
  faithful : s'.matcher.Faithful
  known : ∀ text, s'.matcher.knows text = (texts.contains text || s.matcher.knows text)
  log : s'.log = s.log ++ (newlyMalformed s.matcher texts).map fun text =>
    .badPattern ruleId text .malformed

namespace Warns

variable {ruleId : String} {s s' s'' : Search}

theorem nil (h : s.matcher.Faithful) : Warns ruleId [] s s :=
  ⟨h, fun _ => rfl, (List.append_nil s.log).symm⟩

/-- A text in front of others. -/
theorem cons {text : String} {texts : List String}
    (hknown : ∀ other, s'.matcher.knows other = (other == text || s.matcher.knows other))
    (hlog : s'.log = s.log ++ if isMalformed text && !s.matcher.knows text
      then [.badPattern ruleId text .malformed] else [])
    (h : Warns ruleId texts s' s'') : Warns ruleId (text :: texts) s s'' := by
  refine ⟨h.faithful, fun other => ?_, ?_⟩
  · rw [h.known, hknown, List.contains_cons, Bool.or_assoc, Bool.or_left_comm]
  · rw [h.log, hlog, List.append_assoc, newlyMalformed_cons _ _ text texts hknown, List.map_append]
    split
    · rfl
    · rfl

end Warns

/-! ## Patterns -/

section

variable (rule : Rule) (path : String) (content : Subject)

theorem triedTexts_cons (p : RulePattern) (rest : List RulePattern) :
    triedTexts path (p :: rest) =
      if p.stops path then []
      else if p.isSoughtIn path then p.text :: triedTexts path rest
      else triedTexts path rest := by
  rw [triedTexts, List.takeWhile_cons]
  cases p.stops path with
  | true => rfl
  | false =>
      rw [if_pos Bool.not_false, if_neg Bool.false_ne_true, List.filter_cons]
      split
      · rfl
      · rfl

theorem ruleMatches_of_enabled {rule : Rule} (h : rule.enabled = true) :
    ruleMatches path content rule =
      (rule.patterns.mapM (patternMatches rule path content)).map List.flatten :=
  if_pos h

theorem patternMatches_of_sought (p : RulePattern) (h : p.isSoughtIn path = true) :
    patternMatches rule path content p = (regexOf p.text).map fun
      | some r => matchesOf rule p path content r
      | none => [] :=
  if_pos h

theorem patternMatches_of_not_sought (p : RulePattern) (h : ¬ p.isSoughtIn path = true) :
    patternMatches rule path content p = .ok [] :=
  if_neg h

/-- A pattern that does not stop the search gives its occurrences. -/
theorem patternMatches_of_not_stops (p : RulePattern) (h : ¬ p.stops path = true) :
    patternMatches rule path content p = .ok (occurrencesIn rule path content p) := by
  rw [RulePattern.stops, Bool.and_eq_true, not_and, endsSearch] at h
  rw [occurrencesIn]
  by_cases hsought : p.isSoughtIn path = true
  -- Sought and not stopping leaves two of the three cases that a text can be.
  · have hends := h hsought
    rw [patternMatches_of_sought rule path content p hsought, if_pos hsought]
    rcases regexOf_cases p.text with
      ⟨r, hparse, hregex⟩ | ⟨hparse, hregex⟩ | ⟨e, _, _, hregex⟩
    · rw [hparse, hregex]
      rfl
    · rw [hparse, hregex]
      rfl
    · rw [hregex] at hends
      exact absurd rfl hends
  · rw [patternMatches_of_not_sought rule path content p hsought, if_neg hsought]

/-- A pattern that stops the search gives the mistake in its text, which is not that the text is
    malformed. -/
theorem exists_of_stops (p : RulePattern) (h : p.stops path = true) :
    ∃ e, Pattern.parse p.text.toList = .error e ∧ e ≠ .malformed ∧
      patternMatches rule path content p = .error (.pattern e) := by
  rw [RulePattern.stops, Bool.and_eq_true, endsSearch] at h
  rw [patternMatches_of_sought rule path content p h.1]
  rcases regexOf_cases p.text with
    ⟨r, _, hregex⟩ | ⟨_, hregex⟩ | ⟨e, hparse, he, hregex⟩
  · simp [hregex] at h
  · simp [hregex] at h
  · rw [hregex]
    exact ⟨e, hparse, he, rfl⟩

/-- Looking for one pattern gives what the plain function gives. If it does not stop the search, its
    text is warned about in front of those that come later. -/
theorem run_matchPattern (p : RulePattern) (s : Search) (hs : s.matcher.Faithful) :
    ∃ s₁, (matchPattern rule path content p).run.run s =
        (patternMatches rule path content p, s₁) ∧ s₁.matcher.Faithful ∧
      (p.stops path = true → Warns rule.id [] s s₁) ∧
      (¬ p.stops path = true → ∀ texts s', Warns rule.id texts s₁ s' →
        Warns rule.id (if p.isSoughtIn path then p.text :: texts else texts) s s') := by
  rw [RulePattern.stops]
  -- What the two outcomes have in common is said once; `hends` tells which it is.
  by_cases hsought : p.isSoughtIn path = true
  · rcases run_compile rule.id p.text s hs with ⟨s₁, hrun, hs₁, hknown, hlog⟩
    rw [hsought, Bool.true_and]
    refine ⟨s₁, ?_, hs₁, fun hends => ?_, fun hends texts s' h => ?_⟩
    · have hsteps : matchPattern rule path content p = (compile rule.id p.text >>= fun
          | some r => pure (matchesOf rule p path content r)
          | none => pure []) := if_pos hsought
      rw [patternMatches_of_sought rule path content p hsought, hsteps]
      cases hregex : regexOf p.text with
      | error e =>
          rw [hregex] at hrun
          exact run_bind_error _ _ _ _ e hrun
      | ok found =>
          rw [hregex] at hrun
          rw [run_bind _ _ _ _ _ hrun]
          cases found with
          | none => rfl
          | some r => rfl
    · refine ⟨hs₁, fun other => ?_, ?_⟩
      · rw [hknown, hends]
        rfl
      · rw [hlog, isMalformed_of_endsSearch p.text hends]
        rfl
    · rw [Bool.not_eq_true] at hends
      rw [if_pos rfl]
      refine h.cons (fun other => ?_) hlog
      rw [hknown, hends]
      rfl
  · refine ⟨s, ?_, hs, fun hstops => ?_, fun _ texts s' h => ?_⟩
    · have hsteps : matchPattern rule path content p = pure [] := if_neg hsought
      rw [patternMatches_of_not_sought rule path content p hsought, hsteps]
      rfl
    · exact absurd (Bool.and_eq_true_iff.mp hstops).1 hsought
    · rw [if_neg hsought]
      exact h

/-- What is found and told by looking for patterns. -/
theorem run_matchPatterns (ps : List RulePattern) : ∀ s : Search, s.matcher.Faithful →
    ∃ s', (matchPatterns rule path content ps).run.run s =
        ((ps.mapM (patternMatches rule path content)).map List.flatten, s') ∧
      Warns rule.id (triedTexts path ps) s s' := by
  induction ps with
  | nil => exact fun s hs => ⟨s, rfl, .nil hs⟩
  | cons p rest ih =>
      intro s hs
      rw [matchPatterns, collect_cons, triedTexts_cons]
      rcases run_matchPattern rule path content p s hs with ⟨s₁, hrun, hs₁, hstop, hgo⟩
      -- A mistake ends the search here, so the texts behind it are not read, and none is told
      -- of.
      by_cases hstops : p.stops path = true
      · rcases exists_of_stops rule path content p hstops with ⟨e, _, _, herror⟩
        rw [herror] at hrun ⊢
        rw [if_pos hstops]
        exact ⟨s₁, run_bind_error _ _ _ _ _ hrun, hstop hstops⟩
      · rw [patternMatches_of_not_stops rule path content p hstops] at hrun ⊢
        rw [if_neg hstops, run_bind _ _ _ _ _ hrun, ok_bind]
        rcases ih s₁ hs₁ with ⟨s', hrest, hwarns⟩
        refine ⟨s', ?_, hgo hstops _ s' hwarns⟩
        cases hmore : (rest.mapM (patternMatches rule path content)).map List.flatten with
        | error e =>
            rw [hmore] at hrest
            exact run_bind_error _ _ _ _ e hrest
        | ok more =>
            rw [hmore] at hrest
            rw [run_bind _ _ _ _ _ hrest]
            rfl

/-- Patterns none of which stops the search give their occurrences, one pattern after the other. -/
theorem collect_of_none_stops (ps : List RulePattern)
    (h : ps.find? (·.stops path) = none) :
    (ps.mapM (patternMatches rule path content)).map List.flatten =
      .ok (ps.flatMap (occurrencesIn rule path content)) := by
  induction ps with
  | nil => rfl
  | cons p rest ih =>
      rw [List.find?_cons] at h
      split at h
      · exact absurd h (Option.some_ne_none p)
      · rename_i hstops
        have hfound := patternMatches_of_not_stops rule path content p (Bool.eq_false_iff.mp hstops)
        rw [collect_cons, hfound, ok_bind, ih h, ok_bind, List.flatMap_cons]

/-- The first pattern that stops the search gives the mistake it ends with. -/
theorem collect_of_stops (ps : List RulePattern) (p : RulePattern)
    (h : ps.find? (·.stops path) = some p) :
    ∃ e, Pattern.parse p.text.toList = .error e ∧ e ≠ .malformed ∧
      (ps.mapM (patternMatches rule path content)).map List.flatten = .error (.pattern e) := by
  induction ps with
  | nil => exact absurd h (Option.some_ne_none p).symm
  | cons q rest ih =>
      rw [List.find?_cons] at h
      split at h
      · rename_i hstops
        rcases exists_of_stops rule path content q hstops with ⟨e, hparse, he, herror⟩
        refine ⟨e, Option.some.inj h ▸ hparse, he, ?_⟩
        rw [collect_cons, herror]
        rfl
      · rename_i hstops
        rcases ih h with ⟨e, hparse, he, herror⟩
        refine ⟨e, hparse, he, ?_⟩
        have hfound := patternMatches_of_not_stops rule path content q (Bool.eq_false_iff.mp hstops)
        rw [collect_cons, hfound, ok_bind, herror]
        rfl

end

/-! ## Searches -/

/-- A search whose matcher has looked for the patterns of rules in files, any number of times and
    with any outcome. In between other things can be told. -/
inductive Search.Reached : Search → Prop
  | start (log : Log) : Reached ⟨[], log⟩
  | told (s : Search) (more : Log) (h : Reached s) : Reached { s with log := s.log ++ more }
  | content (s : Search) (rule : Rule) (path : String) (content : Subject) (h : Reached s) :
      Reached ((matchContent rule path content).run.run s).2

/-- What a matcher knows is right, and of what it knows to be malformed there was a warning. -/
structure Search.Honest (s : Search) : Prop where
  faithful : s.matcher.Faithful
  told : ∀ text, isMalformed text = true → s.matcher.knows text = true →
    ∃ ruleId, Event.badPattern ruleId text .malformed ∈ s.log

theorem Warns.honest {ruleId : String} {texts : List String} {s s' : Search}
    (h : Warns ruleId texts s s') (hs : s.Honest) : s'.Honest := by
  refine ⟨h.faithful, fun text hbad hknows => ?_⟩
  rw [h.log]
  by_cases hbefore : s.matcher.knows text = true
  · rcases hs.told text hbad hbefore with ⟨other, hmem⟩
    exact ⟨other, List.mem_append_left _ hmem⟩
  · -- It is known because it was read just now, so it is among those that are warned about.
    rw [Bool.not_eq_true] at hbefore
    rw [h.known, hbefore, Bool.or_false, List.contains_iff_mem] at hknows
    refine ⟨ruleId, List.mem_append_right _ (List.mem_map.mpr ⟨text, ?_, rfl⟩)⟩
    rw [newlyMalformed, List.mem_eraseDups, List.mem_filter]
    exact ⟨hknows, by rw [hbad, hbefore]; rfl⟩

/-- What is found and told by looking for the patterns of a rule. -/
theorem run_matchContent (rule : Rule) (path : String) (content : Subject) (s : Search)
    (hs : s.matcher.Faithful) :
    ∃ s', (matchContent rule path content).run.run s = (ruleMatches path content rule, s') ∧
      Warns rule.id (if rule.enabled then triedTexts path rule.patterns else []) s s' := by
  unfold matchContent ruleMatches
  split
  · exact run_matchPatterns rule path content rule.patterns s hs
  · exact ⟨s, rfl, .nil hs⟩

theorem Search.Reached.honest {s : Search} (h : s.Reached) : s.Honest := by
  induction h with
  | start log => exact ⟨Matcher.faithful_nil, fun _ _ h => absurd h Bool.false_ne_true⟩
  | told s more _ ih =>
      refine ⟨ih.faithful, fun text hbad hknows => ?_⟩
      rcases ih.told text hbad hknows with ⟨ruleId, hmem⟩
      exact ⟨ruleId, List.mem_append_left more hmem⟩
  | content s rule path content _ ih =>
      rcases run_matchContent rule path content s ih.faithful with ⟨s', hrun, hwarns⟩
      rw [hrun]
      exact hwarns.honest ih

/-- A pattern that is malformed costs no more than itself. The patterns of a rule give their
    occurrences, one pattern after the other, and there is a warning about each malformed text that
    is met for the first time. Only a text that is no regular expression for another reason ends
    the search, with the first such mistake. -/
theorem content_of_reached (s : Search) (hs : s.Reached) (rule : Rule) (path : String)
    (content : Subject) (henabled : rule.enabled = true) :
    ∃ result s', (matchContent rule path content).run.run s = (result, s') ∧
      (rule.patterns.find? (·.stops path) = none →
        result = .ok (rule.patterns.flatMap (occurrencesIn rule path content))) ∧
      (∀ p, rule.patterns.find? (·.stops path) = some p →
        ∃ e, Pattern.parse p.text.toList = .error e ∧ e ≠ .malformed ∧
          result = .error (.pattern e)) ∧
      s'.log = s.log ++ (newlyMalformed s.matcher (triedTexts path rule.patterns)).map
        (fun text => .badPattern rule.id text .malformed) ∧
      (∀ text ∈ triedTexts path rule.patterns, Pattern.parse text.toList = .error .malformed →
        ∃ ruleId, Event.badPattern ruleId text .malformed ∈ s'.log) ∧
      s'.Reached := by
  rcases run_matchContent rule path content s hs.honest.faithful with ⟨s', hrun, hwarns⟩
  have hreached : s'.Reached := by
    have hnext := Search.Reached.content s rule path content hs
    rw [hrun] at hnext
    exact hnext
  rw [if_pos henabled] at hwarns
  rw [ruleMatches_of_enabled path content henabled] at hrun
  refine ⟨_, s', hrun, collect_of_none_stops rule path content rule.patterns,
    collect_of_stops rule path content rule.patterns, hwarns.log, fun text htext hbad => ?_,
    hreached⟩
  refine hreached.honest.told text ((isMalformed_iff text).mpr hbad) ?_
  rw [hwarns.known, List.contains_iff_mem.mpr htext, Bool.true_or]

/-! ## A secret -/

/-- A rule of a project with some patterns. -/
def secretRule (patterns : List RulePattern) : Rule :=
  { id := "R", name := "N", description := "D", severity := .high, category := .security,
    compliance := [], patterns, quickFix := none, enabled := true, custom := true }

/-- A text with a secret in it. -/
def secretText : Subject :=
  "a secret".toList.toArray

/-- A parenthesis that is not closed stands twice in front of what is found, and a number that is
    too large is meant for other files. -/
def unclosedRule : Rule :=
  secretRule [⟨.regex, "(", [], none⟩, ⟨.regex, "(", [], none⟩, ⟨.regex, "secret", [".PY"], none⟩,
    ⟨.regex, "x\x7b99999999999\x7d", ["js"], none⟩]

theorem content_of_reached_unclosed :
    Search.Reached ⟨[], []⟩ ∧ unclosedRule.enabled = true ∧
      ∃ found s', (matchContent unclosedRule "a.py" secretText).run.run ⟨[], []⟩ = (.ok found, s') ∧
        found.map (fun m => (m.line, m.column, m.text)) = [(1, 3, "secret")] ∧
        s'.log = [.badPattern "R" "(" .malformed] ∧ s'.Reached := by
  refine ⟨.start [], rfl, ?_⟩
  rcases content_of_reached ⟨[], []⟩ (.start []) unclosedRule "a.py" secretText rfl with
    ⟨result, s', hrun, hfound, _, hlog, _, hreached⟩
  -- Only the parentheses are tried: the number is meant for files of another kind.
  have hnone : unclosedRule.patterns.find? (·.stops "a.py") = none := by decide +kernel
  have hbad : newlyMalformed [] (triedTexts "a.py" unclosedRule.patterns) = ["("] := by
    decide +kernel
  rw [hfound hnone] at hrun
  rw [hbad] at hlog
  exact ⟨_, s', hrun, by decide +kernel, hlog, hreached⟩

/-- A number that is too large stands in front of what is not found any more. -/
def repetitionRule : Rule :=
  secretRule [⟨.regex, "x\x7b99999999999\x7d", [], none⟩, ⟨.regex, "secret", [], none⟩]

/-- A rule can be read from a document and still end every search: nothing is found, although a
    pattern of it has an occurrence, and nothing is told about the other one. -/
theorem not_content_of_repetition :
    (Rule.decode repetitionRule.encode true).toOption = some repetitionRule ∧
      repetitionRule.enabled = true ∧
      ((repetitionRule.patterns.flatMap (occurrencesIn repetitionRule "a.py" secretText)).map
        Match.text) = ["secret"] ∧
      ∃ s', (matchContent repetitionRule "a.py" secretText).run.run ⟨[], []⟩ =
        (.error (.pattern .tooLarge), s') ∧ s'.log = [] := by
  have henabled : repetitionRule.enabled = true := rfl
  have hfirst : repetitionRule.patterns.find? (·.stops "a.py") =
      some ⟨.regex, "x\x7b99999999999\x7d", [], none⟩ := by decide +kernel
  have hlarge : (Pattern.parse "x\x7b99999999999\x7d".toList).map (fun _ => ()) =
      .error .tooLarge := by decide +kernel
  have hbad : newlyMalformed [] (triedTexts "a.py" repetitionRule.patterns) = [] := by
    decide +kernel
  refine ⟨by decide +kernel, henabled, by decide +kernel, ?_⟩
  rcases run_matchContent repetitionRule "a.py" secretText ⟨[], []⟩ Matcher.faithful_nil with
    ⟨s', hrun, hwarns⟩
  -- The first pattern ends the search, and what is behind it is never looked for.
  rcases collect_of_stops repetitionRule "a.py" secretText _ _ hfirst with ⟨e, hparse, _, herror⟩
  rw [hparse] at hlarge
  have hlog := hwarns.log
  rw [if_pos henabled, hbad] at hlog
  rw [ruleMatches_of_enabled "a.py" secretText henabled, herror, Except.error.inj hlarge] at hrun
  exact ⟨s', hrun, hlog⟩

end CodeAudit
