import CodeAudit.Proofs.Operation
import CodeAudit.Proofs.Report.Faults
import CodeAudit.Proofs.Rule.Normal
import CodeAudit.Proofs.Store.Listing

/-!
# Loading Rules

What the files of a folder of custom rules come to.

A rule file is read on its own: what it contributes follows from its bytes and its path, and from
no other file. It contributes a rule, or a warning, or it breaks the loading off. So the result
of loading is told file by file, and `run_keepRules` says how the contributions are put together.

Three things break the loading off. One is a quick fix that counts as present and is not a mapping.
It is asked for the value of a key that may be missing, which is a fault of its own kind for
anything but a mapping, and nothing turns that fault into a mistake of the rule. Another is an
integer of too many digits in a field or a switch that is looked at before the single values are:
its text is asked for where no fault is turned into a mistake of the rule. The third is a scalar
of the document that does not spell what it is marked as.

## Main definitions

* `Rule.Refuses`: A result whose failures are mistakes of a rule.
* `Rule.unguardedKeys`: The fields whose faults are no mistakes of the rule.
* `Rule.Breaks`: The entries of a document break its reading off.
* `breaking?`: The failure of a rule file that breaks the loading off.
* `keptRules`, `skipNotes`: What rule files contribute.

## Theorems

* `Rule.refuses_decode`: What a document breaks the loading off by.
* `cases_of_readRule`: What a rule file can come to.
* `run_keepRules`: Rule files one after the other.
* `loading_rules`: The rules of a project, for a folder of any files.
-/

namespace CodeAudit

namespace Rule

/-! ## One document -/

/-- A result whose failures are mistakes of the rule, except for some faults that break it off. -/
def Refuses {α : Type} (breaks : Fault → Prop) (x : Except RuleFailure α) : Prop :=
  ∀ e, x = .error e → (∃ why, e = .invalid why) ∨ ∃ f, e = .broken f ∧ breaks f

namespace Refuses

variable {α β : Type} {breaks : Fault → Prop}

theorem ok (a : α) : Refuses breaks (Except.ok a : Except RuleFailure α) :=
  fun _ h => nomatch h

theorem invalid (why : RuleError) :
    Refuses breaks (Except.error (.invalid why) : Except RuleFailure α) :=
  fun _ h => Or.inl ⟨why, (Except.error.inj h).symm⟩

theorem broken (f : Fault) (h : breaks f) :
    Refuses breaks (Except.error (.broken f) : Except RuleFailure α) :=
  fun _ he => Or.inr ⟨f, (Except.error.inj he).symm, h⟩

theorem bind {x : Except RuleFailure α} {f : α → Except RuleFailure β} (hx : Refuses breaks x)
    (hf : ∀ a, Refuses breaks (f a)) : Refuses breaks (x >>= f) := by
  cases x with
  | error e => exact fun e' h => hx e' (congrArg _ (Except.error.inj h))
  | ok a => exact hf a

theorem map {x : Except RuleFailure α} (f : α → β) (hx : Refuses breaks x) :
    Refuses breaks (x.map f) := by
  cases x with
  | error e => exact fun e' h => hx e' (congrArg _ (Except.error.inj h))
  | ok a => exact ok (f a)

theorem mapM {decode : α → Except RuleFailure β} (as : List α)
    (h : ∀ a, Refuses breaks (decode a)) : Refuses breaks (as.mapM decode) := by
  induction as with
  | nil => exact ok []
  | cons a as ih =>
      rw [List.mapM_cons]
      exact (h a).bind fun b => ih.bind fun bs => ok (b :: bs)

/-- A fault is a mistake of the rule unless it is of one of two kinds. -/
theorem unfit (id : String) (f : Fault) (hmapping : f ≠ .notAMapping) (hfits : f ≠ .tooLarge) :
    Refuses breaks (Except.error (Rule.unfit id f) : Except RuleFailure α) := by
  cases f with
  | notAMapping => exact absurd rfl hmapping
  | tooLarge => exact absurd rfl hfits
  | _ => exact invalid _

/-- A demand is a mistake of the rule unless its fault is one of two kinds. -/
theorem under (id : String) {x : Except Fault α} (hmapping : Avoids .notAMapping x)
    (hfits : Fits x) : Refuses breaks (Rule.under id x) := by
  cases x with
  | ok a => exact ok a
  | error f =>
      exact unfit id f (fun h => hmapping (congrArg _ h)) fun h => hfits (congrArg _ h)

end Refuses

section

variable {breaks : Fault → Prop}

theorem avoids_spelled {α : Type} (kind : String) (word : α → String) (all : List α)
    (fold : String → String) (v : Value) :
    Avoids .notAMapping (spelledMember kind word all fold v) :=
  avoids_spelledMember .notAMapping (fun h => nomatch h) (fun _ _ h => nomatch h) kind word all
    fold v

theorem refuses_told (id : String) (v : Value) : Refuses breaks (under id v.told) :=
  .under id (v.avoids_told .notAMapping fun h => nomatch h) v.fits_told

theorem refuses_severity (id : String) (v : Value) :
    Refuses breaks (under id (Severity.parse v)) :=
  .under id (avoids_spelled "severity" Severity.name Severity.all uppered v) (Severity.fits_parse v)

theorem refuses_category (id : String) (v : Value) :
    Refuses breaks (under id (Category.parse v)) :=
  .under id (avoids_spelled "RuleCategory" Category.label Category.all lowered v)
    (Category.fits_parse v)

theorem refuses_kind (id : String) (v : Value) :
    Refuses breaks (under id (PatternKind.parse v)) :=
  .under id (avoids_spelled "PatternType" PatternKind.label PatternKind.all lowered v)
    (fits_spelledMember "PatternType" PatternKind.label PatternKind.all lowered v)

theorem avoids_demand (key : String) (v : Value) : Avoids .notAMapping (v.demand key) := by
  cases v with
  | mapping entries =>
      simp only [Value.demand]
      cases Value.get? key entries with
      | none => exact fun h => by cases h
      | some w => exact .ok w
  | _ => exact fun h => by cases h

-- A tag is asked for a required key first. That is a mistake of the rule if the tag is not a
-- mapping, and so the keys that may be missing are asked of mappings only.
theorem refuses_complianceTag (id : String) (v : Value) :
    Refuses breaks (under id (ComplianceTag.decode v)) := by
  refine .under id ?_ (ComplianceTag.fits_decode v)
  have htold (w : Value) : Avoids .notAMapping w.told :=
    w.avoids_told .notAMapping fun h => nomatch h
  cases v with
  | mapping entries =>
      unfold ComplianceTag.decode
      refine (avoids_demand _ _).bind fun w _ => ?_
      refine Avoids.bind (avoids_spelled _ _ _ _ w) fun framework _ => ?_
      refine (avoids_demand _ _).bind fun w _ => ?_
      refine (htold w).bind fun control _ => ?_
      refine Avoids.bind (Avoids.ok _) fun w _ => ?_
      exact (htold w).bind fun requirement _ => .ok _
  | _ => exact fun h => nomatch h

/-- A required text is a mistake of the rule if it is missing, and otherwise what becomes of a
    value without a text. -/
theorem refuses_requiredText (untold : Fault → RuleFailure) (entries : Value.Entries)
    (key : String)
    (h : ∀ v, Value.get? key entries = some v → v.isWritable = false →
      Refuses breaks (.error (untold (.integerTooLong 0)) : Except RuleFailure String)) :
    Refuses breaks (requiredText untold entries key) := by
  unfold requiredText
  split
  · exact .invalid _
  · exact .invalid _
  · rename_i v _ hget
    unfold Value.told
    by_cases hwritable : v.isWritable = true
    · rw [if_pos hwritable]
      dsimp only
      split
      · exact .invalid _
      · exact .ok _
    · rw [if_neg hwritable]
      exact h v hget (Bool.not_eq_true _ ▸ hwritable)

theorem refuses_unfitText (id : String) (entries : Value.Entries) (key : String) :
    Refuses breaks (requiredText (unfit id) entries key) :=
  refuses_requiredText _ entries key fun _ _ _ =>
    .unfit id _ (fun h => nomatch h) fun h => nomatch h

theorem refuses_patternText (id : String) (entries : Value.Entries) :
    Refuses breaks (patternText id entries) := by
  unfold patternText
  split
  · exact .invalid _
  · exact .invalid _
  · refine (refuses_told id _).bind fun text => ?_
    split
    · exact .invalid _
    · exact .ok _

theorem refuses_decodePattern (id : String) (v : Value) :
    Refuses breaks (decodePattern id v) := by
  have hmessage (w : Value) : Refuses breaks (under id w.toldUnlessNull) :=
    .under id (w.avoids_toldUnlessNull .notAMapping fun h => nomatch h)
      (w.avoids_toldUnlessNull .tooLarge fun h => nomatch h)
  have htype (w : Value) : Refuses breaks (under id (w.told.map normalFileType)) :=
    .under id ((w.avoids_told .notAMapping fun h => nomatch h).map _) (w.fits_told.map _)
  unfold decodePattern
  split
  · -- First the text is looked at, then the list of file types, then the kind, and the file types
    -- one by one behind it.
    refine (refuses_patternText id _).bind fun text => ?_
    split
    · rw [ok_bind]
      refine (refuses_kind id _).bind fun kind => ?_
      refine (Refuses.mapM _ htype).bind fun fileTypes => ?_
      exact (hmessage _).bind fun message => .ok _
    · exact .invalid _
  · exact .invalid _

end

/-- The fields and switches that are looked at where no fault becomes a mistake of the rule. -/
def unguardedKeys : List String :=
  ["id", "name", "description", "enabled", "custom"]

/-- The entries of a document break its reading off with a fault. -/
inductive Breaks (entries : Value.Entries) : Fault → Prop
  /-- The quick fix counts as present and is no mapping. -/
  | fix (v : Value) (hget : Value.get? "quickFix" entries = some v) (htruthy : v.isTruthy = true)
      (hmapping : ∀ inside, v.opened ≠ .mapping inside) : Breaks entries .notAMapping
  /-- The text of a field, or the message about a switch, cannot be written. -/
  | long (key : String) (v : Value)
      (hkey : key ∈ unguardedKeys)
      (hget : Value.get? key entries = some v) (hlong : v.isWritable = false) :
      Breaks entries (.integerTooLong 0)

theorem refuses_field (entries : Value.Entries) (key : String)
    (hkey : key ∈ unguardedKeys) :
    Refuses (Breaks entries) (requiredText .broken entries key) :=
  refuses_requiredText _ entries key fun v hget hlong => .broken _ (.long key v hkey hget hlong)

theorem refuses_switch (entries : Value.Entries) (id key : String) (default : Bool)
    (hkey : key ∈ unguardedKeys) :
    Refuses (Breaks entries) (switch entries id key default) := by
  unfold switch
  split
  · exact .ok _
  · exact .ok _
  · rename_i v _ hget
    by_cases hwritable : v.isWritable = true
    · rw [if_pos hwritable]
      exact .invalid _
    · rw [if_neg hwritable]
      exact .broken _ (.long key v hkey hget (Bool.not_eq_true _ ▸ hwritable))

/-- A quick fix breaks the loading off if it counts as present and is not a mapping. -/
theorem refuses_decodeFix (id : String) (v : Value) :
    Refuses (fun f => f = .notAMapping ∧ v.isTruthy = true ∧ ∀ entries, v.opened ≠ .mapping entries)
      (decodeFix id v) := by
  unfold decodeFix
  by_cases htruthy : v.isTruthy = true
  · rw [if_pos htruthy]
    -- A mapping is decoded like any other. Anything else is no mistake of the rule, as its id
    -- is not known there.
    generalize v.opened = w
    cases w with
    | mapping entries =>
        refine (Refuses.under id ?_ (QuickFix.fits_decode _)).map _
        unfold QuickFix.decode
        refine Avoids.bind (Avoids.ok _) fun replacement _ => ?_
        refine (avoids_demand _ _).bind fun w _ => ?_
        refine Avoids.bind (avoids_spelled _ _ _ _ w) fun kind _ => ?_
        refine Avoids.bind (Avoids.ok _) fun w _ => ?_
        refine (w.avoids_told .notAMapping fun h => nomatch h).bind fun description _ => ?_
        exact (replacement.avoids_toldUnlessNull .notAMapping fun h => nomatch h).bind
          fun text _ => .ok _
    | _ => exact .broken _ ⟨rfl, htruthy, fun entries heq => nomatch heq⟩
  · rw [if_neg htruthy]
    exact .ok none

/-- A document breaks the loading off by its quick fix, or by a value that cannot be written. -/
theorem refuses_decode (v : Value) (custom : Bool) :
    Refuses (fun f => ∃ entries, v.opened = .mapping entries ∧ Breaks entries f)
      (decode v custom) := by
  unfold decode
  split
  · rename_i entries hv
    suffices h : Refuses (Breaks entries) (decodeEntries entries custom) by
      intro e he
      rcases h e he with hinvalid | ⟨f, hf, hbreaks⟩
      · exact Or.inl hinvalid
      · exact Or.inr ⟨f, hf, entries, hv, hbreaks⟩
    unfold decodeEntries
    dsimp only
    refine (refuses_field entries "id" (by decide)).bind fun id => ?_
    refine (refuses_field entries "name" (by decide)).bind fun name => ?_
    refine (refuses_field entries "description" (by decide)).bind fun description => ?_
    split
    · rename_i p ps _
      rw [ok_bind]
      split
      · rw [ok_bind]
        refine (refuses_switch entries id "enabled" true (by decide)).bind fun enabled => ?_
        refine (refuses_switch entries id "custom" false (by decide)).bind fun marked => ?_
        refine (refuses_unfitText id entries "severity").bind fun word => ?_
        refine (refuses_severity id _).bind fun severity => ?_
        refine (refuses_unfitText id entries "category").bind fun word => ?_
        refine (refuses_category id _).bind fun category => ?_
        refine (Refuses.mapM _ fun t => refuses_complianceTag id _).bind fun compliance => ?_
        refine (Refuses.mapM _ fun p => refuses_decodePattern id p).bind fun patterns => ?_
        refine Refuses.bind ?_ fun quickFix => .ok _
        -- What is no mapping is in the document, since nothing does not count as present.
        intro e h
        rcases refuses_decodeFix id _ e h with hinvalid | ⟨f, he, hf, htruthy, hmapping⟩
        · exact Or.inl hinvalid
        · refine Or.inr ⟨f, he, ?_⟩
          rw [hf]
          cases hfix : Value.get? "quickFix" entries with
          | none =>
              rw [hfix, Option.getD_none] at htruthy
              exact nomatch htruthy
          | some fix =>
              rw [hfix, Option.getD_some] at htruthy hmapping
              exact .fix fix hfix htruthy hmapping
      · exact .invalid _
    · exact .invalid _
  · exact .invalid _

/-- The rule of a document is marked as custom if the caller says so. -/
theorem custom_of_decode (v : Value) (r : Rule) (h : decode v true = .ok r) : r.custom = true :=
  ((exists_decode_iff r true).mp ⟨v, h⟩).2 rfl

end Rule

/-! ## One file -/

/-- The rule that the bytes of a file at a path come to. -/
def ruleOf (path : String) (content : Except FileError (List UInt8)) : Except Failure Rule :=
  match content with
  | .error e => .error (.file path e)
  | .ok bytes =>
    match Utf8.decode? bytes with
    | none => .error .notText
    | some cs =>
      orFailure Failure.ofRule (Rule.load "<unicode string>" (normalizeNewlines cs) true)

/-- What a rule file comes to follows from its bytes and its path. -/
theorem readRule_eq_ruleOf (d : Disk) (path : String) :
    readRule d path true = ruleOf path (d.fileContent path) := by
  unfold readRule readDocument ruleOf
  cases d.fileContent path with
  | error e => rfl
  | ok bytes =>
      dsimp only
      cases Utf8.decode? bytes with
      | none => rfl
      | some cs => rfl

/-- The failure of a rule file that breaks the loading off. -/
def breaking? (x : Except Failure Rule) : Option Failure :=
  match x with
  | .ok _ => none
  | .error e => if e.spoilsRule then none else some e

/-- A document breaks the loading off: its quick fix is no mapping, a value that is asked for its
    text cannot be written, or a scalar does not spell what it is marked as. -/
def BreaksOff (cs : List Char) (e : Failure) : Prop :=
  (∃ v entries f, e = .fault f ∧ Yaml.load "<unicode string>" cs = .ok v ∧
    v.opened = .mapping entries ∧ Rule.Breaks entries f) ∨
  ∃ defect, e = .defect defect ∧ Yaml.load "<unicode string>" cs = .error (.defect defect)

/-- The failure to read a rule is a mistake of the rule, or breaks the loading off. -/
theorem load_error (cs : List Char) (e : RuleFailure)
    (h : Rule.load "<unicode string>" cs true = .error e) :
    (∃ why, e = .invalid why) ∨ BreaksOff cs (Failure.ofRule e) := by
  unfold Rule.load at h
  cases hyaml : Yaml.load "<unicode string>" cs with
  | error e' =>
      rw [hyaml] at h
      cases e' with
      | malformed t => exact Or.inl ⟨_, (Except.error.inj h).symm⟩
      | defect defect =>
          rw [← Except.error.inj h]
          exact Or.inr (Or.inr ⟨defect, rfl, hyaml⟩)
      | cutOff none => exact nomatch none
  | ok v =>
      rw [hyaml] at h
      rcases Rule.refuses_decode v true e h with hinvalid | ⟨f, he, entries, hv, hbreaks⟩
      · exact Or.inl hinvalid
      -- The document was read, so what breaks it off stands in it.
      · rw [he]
        exact Or.inr (Or.inl ⟨v, entries, f, rfl, hyaml, hv, hbreaks⟩)

/-- What a rule file can come to: a custom rule, a mistake that costs only the file, or a failure
    that breaks the loading off. -/
theorem cases_of_readRule (d : Disk) (path : String) :
    (∃ r, readRule d path true = .ok r ∧ r.custom = true) ∨
    (∃ e, readRule d path true = .error e ∧ e.spoilsRule = true) ∨
    (∃ e cs, readRule d path true = .error e ∧ breaking? (readRule d path true) = some e ∧
      readDocument d path = .ok cs ∧ BreaksOff cs e) := by
  unfold readRule
  -- What cannot be opened, and what is no text, costs the file only.
  cases hdocument : readDocument d path with
  | error e =>
      refine Or.inr (Or.inl ⟨e, rfl, ?_⟩)
      unfold readDocument at hdocument
      cases hcontent : d.fileContent path with
      | error e' =>
          rw [hcontent] at hdocument
          exact Except.error.inj hdocument ▸ rfl
      | ok bytes =>
          simp only [hcontent] at hdocument
          cases htext : Utf8.decode? bytes with
          | none =>
              simp only [htext, Except.error.injEq] at hdocument
              exact hdocument ▸ rfl
          | some cs =>
              simp only [htext] at hdocument
              exact nomatch hdocument
  | ok cs =>
      rw [ok_bind]
      cases hload : Rule.load "<unicode string>" cs true with
      | ok r =>
          refine Or.inl ⟨r, rfl, ?_⟩
          -- The rule comes from a document, and the caller says that it is custom.
          unfold Rule.load at hload
          cases hyaml : Yaml.load "<unicode string>" cs with
          | error e =>
              rw [hyaml] at hload
              cases e with
              | malformed t => exact nomatch hload
              | defect defect => exact nomatch hload
              | cutOff none => exact nomatch none
          | ok v =>
              rw [hyaml] at hload
              exact Rule.custom_of_decode v r hload
      | error e =>
          rcases load_error cs e hload with ⟨why, hwhy⟩ | hbreaks
          · rw [hwhy]
            exact Or.inr (Or.inl ⟨_, rfl, rfl⟩)
          · refine Or.inr (Or.inr ⟨Failure.ofRule e, cs, rfl, ?_, rfl, hbreaks⟩)
            rcases hbreaks with ⟨_, _, f, he, _⟩ | ⟨defect, he, _⟩
            · simp only [orFailure, breaking?, he]
              rfl
            · simp only [orFailure, breaking?, he]
              rfl

/-! ## Several files -/

/-- The rules among what files hold. -/
def keptRules (files : List (String × Except Failure Rule)) : List Rule :=
  files.filterMap fun f => f.2.toOption

/-- What is told about a file that holds no rule. -/
def skipNote? (skipped : String → Failure → Event) (f : String × Except Failure Rule) :
    Option Event :=
  match f.2 with
  | .ok _ => none
  | .error e => some (skipped f.1 e)

/-- Rule files are read one after the other, up to one that breaks the loading off. -/
theorem run_keepRules (skipped : String → Failure → Event)
    (files : List (String × Except Failure Rule)) :
    ∀ log, (keepRules skipped files).run.run log =
      (match files.findSome? fun f => breaking? f.2 with
        | some e => .error e
        | none => .ok (keptRules files),
       log ++ (files.takeWhile fun f => (breaking? f.2).isNone).filterMap (skipNote? skipped)) := by
  induction files with
  | nil =>
      intro log
      simp only [keepRules, List.findSome?_nil, List.takeWhile_nil, List.filterMap_nil,
        List.append_nil]
      rfl
  | cons f rest ih =>
      rcases f with ⟨name, x⟩
      intro log
      cases x with
      | ok r =>
          have hnone : breaking? (.ok r) = none := rfl
          have hnote : skipNote? skipped (name, .ok r) = none := rfl
          rw [keepRules, run_bind_eq, ih, List.findSome?_cons, List.takeWhile_cons]
          simp only [hnone, Option.isNone_none, if_true, List.filterMap_cons_none hnote]
          -- Whether a later file breaks off decides about the result, and not about what is
          -- told here.
          cases rest.findSome? fun f => breaking? f.2 with
          | none => rfl
          | some e => rfl
      | error e =>
          rw [keepRules]
          by_cases hspoils : e.spoilsRule = true
          · have hnone : breaking? (.error e) = none := by
              simp only [breaking?, if_pos hspoils]
            have hnote : skipNote? skipped (name, .error e) = some (skipped name e) := rfl
            rw [if_pos hspoils, run_bind _ _ log _ () (run_note _ log), ih, List.findSome?_cons,
              List.takeWhile_cons]
            simp only [hnone, Option.isNone_none, if_true, List.filterMap_cons_some hnote,
              List.append_assoc, List.singleton_append]
            rfl
          · have hsome : breaking? (.error e) = some e := by
              simp only [breaking?, if_neg hspoils]
            rw [if_neg hspoils, List.findSome?_cons, List.takeWhile_cons]
            simp only [hsome, Option.isNone_some, Bool.false_eq_true, if_false,
              List.filterMap_nil, List.append_nil]
            rfl

/-! ## The rules of a project -/

/-- The rule files of a folder are listed in the order of their names. -/
theorem exists_names_customRuleFiles (d : Disk) (folder : String) :
    ∃ names : List String, names.Pairwise (· ≤ ·) ∧
      customRuleFiles d folder = names.map (Disk.join folder) ∧
      ∀ name, name ∈ names ↔ (∃ listed, d.names folder = .ok listed ∧ name ∈ listed) ∧
        hasRuleEnding (lowerText name.toList) = true ∧ d.isFile (Disk.join folder name) = true := by
  unfold customRuleFiles
  cases hnames : d.names folder with
  | error e =>
      refine ⟨[], .nil, rfl, fun name => ⟨fun h => absurd h List.not_mem_nil, ?_⟩⟩
      rintro ⟨⟨listed, hlisted, _⟩, _⟩
      exact nomatch hlisted
  | ok listed =>
      have hsorted : listed.Pairwise (· ≤ ·) := by
        rcases Disk.folder_of_names d folder listed hnames with ⟨entries, hlookup⟩
        simp only [Disk.names, hlookup, Except.ok.injEq] at hnames
        rw [← hnames]
        exact pairwise_sortTexts _
      refine ⟨(listed.filter fun n => hasRuleEnding (lowerText n.toList)).filter fun n =>
        d.isFile (Disk.join folder n), (hsorted.filter _).filter _, ?_, fun name => ?_⟩
      · simp only [List.filter_map]
        rfl
      · simp only [List.mem_filter, Except.ok.injEq, exists_eq_left']
        exact and_assoc

/-- Files that all hold a rule give their rules, and nothing is told. -/
theorem run_keepRules_of_rules (skipped : String → Failure → Event) (rules : List (String × Rule))
    (log : Log) : (keepRules skipped (rules.map fun e => (e.1, .ok e.2))).run.run log =
      (.ok (rules.map Prod.snd), log) := by
  induction rules with
  | nil => rfl
  | cons e rest ih =>
      rw [List.map_cons, keepRules, run_bind _ _ log log _ ih]
      rfl

theorem run_rules_builtin (log : Log) :
    Package.builtin.rules.run.run log = (.ok (Builtin.rules.map Prod.snd), log) :=
  run_keepRules_of_rules .builtinRuleSkipped Builtin.rules log

/-- The rules of a project with any files in the folder of its custom rules: the enabled built-in
    rules in the order of the names of their files, and behind them, in that order too, the enabled
    rules of the files that hold one. Every other file is told once. What a file contributes
    follows from its bytes. Only a file that breaks the loading off ends it. -/
theorem loading_rules (d : Disk) (folder : String) (log : Log) :
    (allRules .builtin d (some folder)).run.run log =
      (match (customRuleFiles d folder).findSome? fun path => breaking? (readRule d path true) with
        | some e => .error e
        | none => .ok ((Builtin.rules.map Prod.snd).filter Rule.enabled ++
            (keptRules ((customRuleFiles d folder).map fun path =>
              (path, readRule d path true))).filter Rule.enabled),
       log ++ (((customRuleFiles d folder).map fun path => (path, readRule d path true)).takeWhile
        fun f => (breaking? f.2).isNone).filterMap (skipNote? .customRuleSkipped)) ∧
    (Builtin.rules.map Prod.fst).Pairwise (· ≤ ·) ∧
    (∃ names : List String, names.Pairwise (· ≤ ·) ∧
      customRuleFiles d folder = names.map (Disk.join folder) ∧
      ∀ name, name ∈ names ↔ (∃ listed, d.names folder = .ok listed ∧ name ∈ listed) ∧
        hasRuleEnding (lowerText name.toList) = true ∧
          d.isFile (Disk.join folder name) = true) ∧
    ∀ path, readRule d path true = ruleOf path (d.fileContent path) ∧
      ((∃ r, readRule d path true = .ok r ∧ r.custom = true) ∨
        (∃ e, readRule d path true = .error e ∧ e.spoilsRule = true) ∨
        (∃ e cs, readRule d path true = .error e ∧ breaking? (readRule d path true) = some e ∧
          readDocument d path = .ok cs ∧ BreaksOff cs e)) := by
  refine ⟨?_, by decide, exists_names_customRuleFiles d folder,
    fun path => ⟨readRule_eq_ruleOf d path, cases_of_readRule d path⟩⟩
  unfold allRules
  rw [run_bind _ _ log log _ (run_rules_builtin log)]
  dsimp only
  rw [customRules, run_bind_eq, run_keepRules, List.findSome?_map]
  simp only [Function.comp_def]
  cases (customRuleFiles d folder).findSome? fun path => breaking? (readRule d path true) with
  | some e => rfl
  | none =>
      dsimp only
      rw [run_pure, List.filter_append]

/-! ## A quick fix in words -/

/-- A project with a good rule, and one whose quick fix is a sentence. -/
def wordyDisk : Disk :=
  let about := "id: A\nname: N\ndescription: D\nseverity: low\ncategory: quality\n"
  let rule := about ++ "patterns:\n- pattern: x\n"
  { root := .folder [("p", .folder [(".securecode", .folder [("rules", .folder
      [("a.yaml", .file (Utf8.encode rule.toList)),
       ("b.yaml", .file (Utf8.encode (rule ++ "quickFix: use https\n").toList))])])])], cwd := [] }

/-- One bad rule file breaks the loading off, though the other holds a rule. -/
theorem not_loading_of_wordy :
    (readRule wordyDisk "/p/.securecode/rules/a.yaml" true).isOk = true ∧
      ((allRules .builtin wordyDisk (some "/p/.securecode/rules")).run.run []).1.isOk = false := by
  decide +kernel

end CodeAudit
