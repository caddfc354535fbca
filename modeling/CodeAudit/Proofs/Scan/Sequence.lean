import CodeAudit.Proofs.Scan.Skipping

/-!
# Searches One After The Other

What a matcher changes that is kept from one search to the next.

It changes nothing in what is found. A matcher that is faithful holds for a text what reading the
text would give, so each of several calls ends as it does with a matcher that has read nothing: with
the same matches, or with the same mistake. A call that ends with a mistake does not keep the next
ones from being made.

What it changes is how often a warning comes. A call uses the texts of those patterns of its rule
that it comes to, if the rule is enabled. Of all the uses of malformed texts in all the calls, there
is a warning about the first one of each text, and it names the rule of that use. The other rules
with that text are not told about, whatever their files and patterns are.

The proof goes along the calls. `Reads` says for some uses which of them are warned about and what
the matcher knows then. It holds of one call by `run_matchContent`, and two of them are put behind
one another by `Reads.trans`, where the second one starts with what the first one has made known.

## Main definitions

* `Call`: What a matcher is asked.
* `runCalls`: Calls that are made with one matcher.
* `Call.uses`: The texts that are read in a call.
* `firstUses`: The uses that are warned about.
* `Reads`: What some uses change.

## Theorems

* `firstUses_append`: Uses in front of others.
* `texts_firstUses`: Each malformed text is used a first time once.
* `find?_of_mem_firstUses`: There is no earlier use of the text of a first use.
* `run_calls_eq_alone`: What is found and told by several calls.
-/

namespace CodeAudit

open Pattern (Subject)

/-- What a matcher is asked: the matches of a rule in the text of a file. -/
structure Call where
  rule : Rule
  path : String
  content : Subject

/-- Calls that are made with one matcher, one after the other. How each of them ends is kept, and
    the next one is made in any case. -/
def runCalls : List Call → Search → List (Except Failure (List Match)) × Search
  | [], s => ([], s)
  | c :: rest, s =>
    let (result, s₁) := (matchContent c.rule c.path c.content).run.run s
    let (results, s₂) := runCalls rest s₁
    (result :: results, s₂)

/-- How a call ends that is made with a matcher of its own. -/
def Call.alone (c : Call) : Except Failure (List Match) :=
  ((matchContent c.rule c.path c.content).run.run ⟨[], []⟩).1

/-- A text is read as a regular expression for a rule. -/
structure Use where
  ruleId : String
  text : String

/-- The warning that the text of a use is malformed. -/
def Use.warning (u : Use) : Event :=
  .badPattern u.ruleId u.text .malformed

/-- The uses of texts in a call. There are none if the rule is not enabled. Otherwise the texts are
    those of the regular expressions that are meant for the file, as far as the first one that ends
    the search. -/
def Call.uses (c : Call) : List Use :=
  if c.rule.enabled then (triedTexts c.path c.rule.patterns).map (Use.mk c.rule.id) else []

/-- The first uses of malformed texts that are not known yet. -/
def firstUses (known : String → Bool) (uses : List Use) : List Use :=
  (uses.filter fun u => isMalformed u.text && !known u.text).eraseDupsBy fun u v => u.text == v.text

/-! ## First uses -/

section

variable (known : String → Bool)

/-- Of a use and others, the first is warned about if it has to be, and then its text is known. -/
theorem firstUses_cons (u : Use) (us : List Use) :
    firstUses known (u :: us) = (if isMalformed u.text && !known u.text then [u] else []) ++
      firstUses (fun text => text == u.text || known text) us := by
  -- Behind the use its text is known, so no other use of it is left, whether or not it is told.
  have hlater : ∀ v : Use, (isMalformed v.text && !(v.text == u.text || known v.text)) =
      (decide ((v.text == u.text) = false) && (isMalformed v.text && !known v.text)) := by
    intro v
    rw [Bool.not_or, Bool.and_left_comm, Bool.decide_eq_false]
  rw [firstUses, firstUses, List.filter_cons]
  simp only [hlater]
  split
  · rw [List.eraseDupsBy_cons, List.filter_filter]
    rfl
  · rename_i htold
    rw [List.nil_append]
    congr 1
    refine List.filter_congr fun v _ => ?_
    by_cases hsame : v.text = u.text
    · rw [hsame, Bool.eq_false_of_not_eq_true htold, Bool.and_false]
    · rw [beq_false_of_ne hsame, decide_eq_true rfl, Bool.true_and]

/-- Of uses and others behind them, the first ones are warned about as if they were alone, and then
    their texts are known. -/
theorem firstUses_append (us vs : List Use) :
    firstUses known (us ++ vs) = firstUses known us ++
      firstUses (fun text => (us.map Use.text).contains text || known text) vs := by
  induction us generalizing known with
  | nil => rfl
  | cons u us ih =>
      -- It makes no difference in which order texts became known.
      have hboth : (fun text => (us.map Use.text).contains text || (text == u.text || known text)) =
          fun text => ((u :: us).map Use.text).contains text || known text := by
        funext text
        rw [List.map_cons, List.contains_cons, Bool.or_assoc, Bool.or_left_comm]
      rw [List.cons_append, firstUses_cons, firstUses_cons, ih, hboth, List.append_assoc]

theorem not_known_of_mem_firstUses {u : Use} {us : List Use} (h : u ∈ firstUses known us) :
    known u.text = false := by
  induction us generalizing known with
  | nil => exact absurd h List.not_mem_nil
  | cons v us ih =>
      rw [firstUses_cons, List.mem_append] at h
      rcases h with hfirst | hlater
      · split at hfirst
        · rename_i htold
          rw [List.mem_singleton.mp hfirst]
          exact Bool.not_eq_true' _ ▸ (Bool.and_eq_true_iff.mp htold).2
        · exact absurd hfirst List.not_mem_nil
      · exact (Bool.or_eq_false_iff.mp (ih _ hlater)).2

/-- There is no earlier use of the text of a first use. -/
theorem find?_of_mem_firstUses {u : Use} {us : List Use} (h : u ∈ firstUses known us) :
    us.find? (fun v => v.text == u.text) = some u := by
  induction us generalizing known with
  | nil => exact absurd h List.not_mem_nil
  | cons v us ih =>
      rw [firstUses_cons, List.mem_append] at h
      rcases h with hfirst | hlater
      · split at hfirst
        · rw [List.mem_singleton.mp hfirst]
          exact List.find?_cons_of_pos (beq_self_eq_true _)
        · exact absurd hfirst List.not_mem_nil
      · -- A later first use has another text, or its text would be known from this one.
        have hother := (Bool.or_eq_false_iff.mp (not_known_of_mem_firstUses _ hlater)).1
        rw [List.find?_cons_of_neg (by rw [Bool.beq_comm, hother]; exact Bool.false_ne_true)]
        exact ih _ hlater

end

/-- The texts of the first uses are the malformed ones, each once. -/
theorem texts_firstUses (m : Matcher) (us : List Use) :
    (firstUses m.knows us).map Use.text = newlyMalformed m (us.map Use.text) := by
  induction us generalizing m with
  | nil => rfl
  | cons u us ih =>
      -- A text that was read is known from then on, and whether it was told is decided before.
      have hknown := fun text => Matcher.knows_put m u.text text none
      rw [firstUses_cons, List.map_append, List.map_cons,
        newlyMalformed_cons m _ u.text _ hknown, ← ih, funext hknown]
      split
      · rfl
      · rfl

/-- The texts that are warned about for one rule, as uses. -/
theorem map_newlyMalformed (m : Matcher) (ruleId : String) (texts : List String) :
    (newlyMalformed m texts).map (Use.mk ruleId) =
      firstUses m.knows (texts.map (Use.mk ruleId)) := by
  induction texts generalizing m with
  | nil => rfl
  | cons text texts ih =>
      have hknown := fun other => Matcher.knows_put m text other none
      rw [newlyMalformed_cons m _ text texts hknown, List.map_append, ih, List.map_cons,
        firstUses_cons, funext hknown]
      split
      · rfl
      · rfl

/-! ## Calls -/

/-- What some uses change, none of which ends a search: their texts are known, and there is a
    warning about each first use of a malformed text that was not known before. -/
structure Reads (uses : List Use) (s s' : Search) : Prop where
  faithful : s'.matcher.Faithful
  known : ∀ text, s'.matcher.knows text =
    ((uses.map Use.text).contains text || s.matcher.knows text)
  log : s'.log = s.log ++ (firstUses s.matcher.knows uses).map Use.warning

namespace Reads

variable {s s₁ s₂ : Search}

theorem nil (h : s.matcher.Faithful) : Reads [] s s :=
  ⟨h, fun _ => rfl, (List.append_nil s.log).symm⟩

/-- Uses in front of others. -/
theorem trans {us vs : List Use} (h₁ : Reads us s s₁) (h₂ : Reads vs s₁ s₂) :
    Reads (us ++ vs) s s₂ := by
  refine ⟨h₂.faithful, fun text => ?_, ?_⟩
  · rw [h₂.known, h₁.known, List.map_append, List.contains_append, Bool.or_assoc,
      Bool.or_left_comm]
  · rw [h₂.log, h₁.log, funext h₁.known, firstUses_append, List.map_append, List.append_assoc]

end Reads

theorem Warns.reads {ruleId : String} {texts : List String} {s s' : Search}
    (h : Warns ruleId texts s s') : Reads (texts.map (Use.mk ruleId)) s s' := by
  have htexts : (texts.map (Use.mk ruleId)).map Use.text = texts := by
    rw [List.map_map]
    exact List.map_id texts
  refine ⟨h.faithful, fun text => ?_, ?_⟩
  · rw [h.known, htexts]
  · rw [h.log, ← map_newlyMalformed, List.map_map]
    rfl

/-- A call ends as it does with a matcher of its own. -/
theorem run_call (c : Call) (s : Search) (hs : s.matcher.Faithful) :
    ∃ s', (matchContent c.rule c.path c.content).run.run s = (c.alone, s') ∧
      Reads c.uses s s' := by
  rcases run_matchContent c.rule c.path c.content s hs with ⟨s', hrun, hwarns⟩
  rcases run_matchContent c.rule c.path c.content ⟨[], []⟩ Matcher.faithful_nil with
    ⟨s₀, halone, _⟩
  have hsame : c.alone = ruleMatches c.path c.content c.rule := by rw [Call.alone, halone]
  refine ⟨s', by rw [hrun, hsame], ?_⟩
  rw [Call.uses]
  by_cases henabled : c.rule.enabled = true
  · rw [if_pos henabled] at hwarns ⊢
    exact hwarns.reads
  · rw [if_neg henabled] at hwarns ⊢
    exact hwarns.reads

/-- Calls end as they do with matchers of their own. -/
theorem run_calls (calls : List Call) : ∀ s : Search, s.matcher.Faithful →
    ∃ s', runCalls calls s = (calls.map Call.alone, s') ∧ Reads (calls.flatMap Call.uses) s s' := by
  induction calls with
  | nil => exact fun s hs => ⟨s, rfl, .nil hs⟩
  | cons c rest ih =>
      intro s hs
      -- The next call starts with a matcher that is faithful again, and knows more.
      rcases run_call c s hs with ⟨s₁, hrun, hreads⟩
      rcases ih s₁ hreads.faithful with ⟨s', hrest, hmore⟩
      refine ⟨s', ?_, ?_⟩
      · rw [runCalls, hrun]
        simp only [hrest, List.map_cons]
      · rw [List.flatMap_cons]
        exact hreads.trans hmore

/-- A matcher that is kept from one call to the next changes nothing in how the calls end. Of all
    the uses of malformed texts there is a warning about the first one of each text, in the order of
    the uses, and nothing else is told. -/
theorem run_calls_eq_alone (calls : List Call) (log : Log) :
    ∃ (told : List Use) (s' : Search), runCalls calls ⟨[], log⟩ = (calls.map Call.alone, s') ∧
      s'.log = log ++ told.map Use.warning ∧
      told.map Use.text =
        (((calls.flatMap Call.uses).map Use.text).filter isMalformed).eraseDups ∧
      ∀ u ∈ told, (calls.flatMap Call.uses).find? (fun v => v.text == u.text) = some u := by
  rcases run_calls calls ⟨[], log⟩ Matcher.faithful_nil with ⟨s', hrun, hreads⟩
  refine ⟨_, s', hrun, hreads.log, ?_, fun u => find?_of_mem_firstUses _⟩
  rw [texts_firstUses, newlyMalformed]
  congr 1
  exact List.filter_congr fun text _ => Bool.and_true _

/-- The warning names the rule that uses the text first. A rule that is not enabled does not use it,
    nor does one whose pattern is meant for other files. -/
example :
    ((firstUses (fun _ => false) (List.flatMap Call.uses
      ([("A", [], false), ("B", ["js"], true), ("C", [], true), ("D", ["py"], true)].map
        fun (id, fileTypes, enabled) =>
          ⟨{ id, name := "N", description := "D", severity := .high, category := .security,
             compliance := [], patterns := [⟨.regex, "(", fileTypes, none⟩], quickFix := none,
             enabled, custom := true }, "a.py", #[]⟩))).map Use.ruleId) = ["C"] := by
  decide +kernel

end CodeAudit
