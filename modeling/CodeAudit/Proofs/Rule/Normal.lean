import CodeAudit.Proofs.Report.RoundTrip
import CodeAudit.Proofs.Text.Case
import CodeAudit.Proofs.Text.Words
import CodeAudit.Rule.Decode

/-!
# Rules in Normal Form

What a rule is like that was read from a document.

A document may spell a rule in many ways. Its texts can be values of any kind, with blanks around
them, its file types can have points in front and capital letters, its words can be in any case, and
what it leaves out has a default. The rule has none of this any more: `Rule.IsNormal` says what is
left. Every rule that is read is normal, and a normal rule is read back from its own document as it
is. So reading is a projection onto the normal rules, and they are all that it can give.

Of what is read, only the texts and the file types are changed by more than the choice of a label.
Texts are trimmed, which changes nothing the second time. File types lose the points in front of
them before they are put into small letters, and small letters bring no point to the front.

## Main definitions

* `Rule.IsName`: A text that is required of a rule.
* `Rule.IsFileType`: A file type in its normal form.
* `Rule.IsNormal`: A rule in its normal form.

## Theorems

* `Rule.isFileType_iff`: File types are in normal form if nothing is left to be done with them.
* `Rule.isNormal_of_decode`: A rule that is read is in its normal form.
* `Rule.decode_encode`: A rule in its normal form is read back from its document.
* `Rule.exists_decode_iff`: What is read are the rules in their normal form.
* `Rule.normal_of_decode`: What is known about a rule that was read.
-/

namespace CodeAudit

namespace Rule

/-- A text that is required of a rule: there is something in it, and no blanks are around it. -/
def IsName (s : String) : Prop :=
  s ≠ "" ∧ IsTrimmed s.toList

/-- A file type in its normal form: without a point in front, and in small letters. -/
def IsFileType (s : String) : Prop :=
  s.toList.head? ≠ some '.' ∧ lowered s = s

/-- A rule in its normal form. -/
structure IsNormal (r : Rule) : Prop where
  id : IsName r.id
  name : IsName r.name
  description : IsName r.description
  some : r.patterns ≠ []
  texts : ∀ p ∈ r.patterns, p.text ≠ ""
  fileTypes : ∀ p ∈ r.patterns, ∀ t ∈ p.fileTypes, IsFileType t

/-! ## Texts and file types -/

theorem isName_of_requiredText (untold : Fault → RuleFailure) (entries : Value.Entries)
    (key s : String) (h : requiredText untold entries key = .ok s) : IsName s := by
  unfold requiredText at h
  split at h
  · exact nomatch h
  · exact nomatch h
  · split at h
    · exact nomatch h
    · split at h
      · exact nomatch h
      · rename_i hne
        rw [← Except.ok.inj h]
        refine ⟨fun heq => hne (beq_iff_eq.mpr heq), ?_⟩
        rw [trimmed, String.toList_ofList]
        exact isTrimmed_trim _

theorem requiredText_of_isName (untold : Fault → RuleFailure) (entries : Value.Entries)
    (key s : String) (hs : IsName s) (hget : Value.get? key entries = some (.text s)) :
    requiredText untold entries key = .ok s := by
  -- There is nothing to be trimmed, so that the text is taken as it stands.
  have htrimmed : trimmed s = s := by
    rw [trimmed, (trim_eq_self_iff _).mpr hs.2, String.ofList_toList]
  rw [requiredText, hget]
  simp only [Value.told_text, htrimmed, beq_false_of_ne hs.1, Bool.false_eq_true, if_false]

/-- A text without a point in front loses nothing. -/
theorem dropPoints_eq_self (cs : List Char) (h : cs.head? ≠ some '.') :
    cs.dropWhile (· == '.') = cs := by
  cases cs with
  | nil => rfl
  | cons c rest =>
      refine List.dropWhile_cons_of_neg fun hc => h ?_
      rw [beq_iff_eq.mp hc]
      rfl

theorem isFileType_normalFileType (s : String) : IsFileType (normalFileType s) := by
  rw [IsFileType, normalFileType, lowered, String.toList_ofList, lowerText_lowerText]
  refine ⟨fun hpoint => ?_, rfl⟩
  -- A point in front of the small letters would be a point in front of the text, and those are
  -- gone.
  have hfirst := List.head?_dropWhile_not (· == '.') s.toList
  rw [head?_lowerText _ hpoint] at hfirst
  exact nomatch hfirst

/-- A file type is in its normal form exactly if nothing is left to be done with it. -/
theorem isFileType_iff (s : String) : IsFileType s ↔ normalFileType s = s := by
  refine ⟨fun h => ?_, fun h => h ▸ isFileType_normalFileType s⟩
  rw [normalFileType, dropPoints_eq_self _ h.1]
  exact h.2

/-! ## Patterns -/

theorem under_ok {α : Type} (id : String) (a : α) : under id (.ok a) = .ok a := rfl

theorem exists_of_under_ok {α : Type} (id : String) (x : Except Fault α) (a : α)
    (h : under id x = .ok a) : x = .ok a := by
  cases x with
  | error f => exact nomatch h
  | ok b => exact congrArg _ (Except.ok.inj h)

theorem ne_empty_of_patternText (id : String) (entries : Value.Entries) (s : String)
    (h : patternText id entries = .ok s) : s ≠ "" := by
  unfold patternText at h
  split at h
  · exact nomatch h
  · exact nomatch h
  · rcases exists_of_bind_ok _ _ _ h with ⟨text, _, h⟩
    split at h
    · exact nomatch h
    · rename_i hne
      rw [← Except.ok.inj h]
      exact fun hempty => hne (beq_iff_eq.mpr hempty)

theorem isFileType_of_told (id : String) (v : Value) (t : String)
    (h : under id (v.told.map normalFileType) = .ok t) : IsFileType t := by
  have htold := exists_of_under_ok id _ t h
  cases hv : v.told with
  | error f =>
      rw [hv] at htold
      exact nomatch htold
  | ok s =>
      rw [hv] at htold
      rw [← Except.ok.inj htold]
      exact isFileType_normalFileType s

/-- A pattern that is read has a text and normal file types. -/
theorem normal_of_decodePattern (id : String) (v : Value) (p : RulePattern)
    (h : decodePattern id v = .ok p) : p.text ≠ "" ∧ ∀ t ∈ p.fileTypes, IsFileType t := by
  unfold decodePattern at h
  split at h
  · rcases exists_of_bind_ok _ _ _ h with ⟨text, htext, h⟩
    split at h
    · rw [ok_bind] at h
      rcases exists_of_bind_ok _ _ _ h with ⟨kind, _, h⟩
      rcases exists_of_bind_ok _ _ _ h with ⟨fileTypes, htypes, h⟩
      rcases exists_of_bind_ok _ _ _ h with ⟨message, _, h⟩
      rw [← Except.ok.inj h]
      refine ⟨ne_empty_of_patternText id _ text htext, fun t ht => ?_⟩
      rcases (exists_of_mem_mapM _ _ _ htypes).2 t ht with ⟨v, _, hv⟩
      exact isFileType_of_told id v t hv
    · exact nomatch h
  · exact nomatch h

/-- A list is taken as it is, also if it is empty. -/
theorem orElse_list (vs : List Value) :
    ((Value.list vs).orElse (.list [])).opened = .list vs := by
  cases vs with
  | nil => rfl
  | cons v vs => rfl

theorem decodePattern_encodePattern (id : String) (p : RulePattern) (htext : p.text ≠ "")
    (htypes : ∀ t ∈ p.fileTypes, IsFileType t) : decodePattern id (encodePattern p) = .ok p := by
  -- The file types are normal, so that reading them does not change them.
  have hsame : (p.fileTypes.map Value.text).mapM
      (fun t => under id (t.told.map normalFileType)) = .ok p.fileTypes := by
    refine mapM_map_ok _ _ _ fun t ht => ?_
    rw [Value.told_text, Except.map, (isFileType_iff t).mp (htypes t ht), under_ok]
  unfold decodePattern encodePattern
  rw [Value.opened_mapping]
  dsimp only
  -- The entries stay a name while the fields are read.
  generalize hentries : [((.text "type" : Value), Value.text p.kind.label),
    (.text "pattern", .text p.text), (.text "fileTypes", .list (p.fileTypes.map .text)),
    (.text "message", optionalText p.message)] = entries
  have hkind : Value.get? "type" entries = some (.text p.kind.label) := by rw [← hentries]; rfl
  have hpattern : patternText id entries = .ok p.text := by
    have hget : Value.get? "pattern" entries = some (.text p.text) := by rw [← hentries]; rfl
    simp only [patternText, hget, Value.told_text, under_ok, ok_bind, beq_false_of_ne htext,
      Bool.false_eq_true, if_false]
    rfl
  have hlist : Value.get? "fileTypes" entries = some (.list (p.fileTypes.map .text)) := by
    rw [← hentries]; rfl
  have hmessage : Value.get? "message" entries = some (optionalText p.message) := by
    rw [← hentries]; rfl
  simp only [hkind, hpattern, hlist, hmessage, Option.getD_some, orElse_list,
    PatternKind.parse_label, under_ok, ok_bind, hsame, toldUnlessNull_optionalText]
  rfl

/-! ## Rules -/

/-- A rule that is read is what each of its fields is read as. -/
theorem exists_of_decodeEntries (entries : Value.Entries) (custom : Bool) (r : Rule)
    (h : decodeEntries entries custom = .ok r) :
    requiredText .broken entries "id" = .ok r.id ∧
      requiredText .broken entries "name" = .ok r.name ∧
      requiredText .broken entries "description" = .ok r.description ∧
      (∃ v vs, (v :: vs).mapM (decodePattern r.id) = .ok r.patterns) ∧
      ∃ marked, r.custom = (custom || marked) := by
  unfold decodeEntries at h
  rcases exists_of_bind_ok _ _ _ h with ⟨id, hid, h⟩
  rcases exists_of_bind_ok _ _ _ h with ⟨name, hname, h⟩
  rcases exists_of_bind_ok _ _ _ h with ⟨description, hdescription, h⟩
  dsimp only at h
  split at h
  · rename_i v vs _
    rw [ok_bind] at h
    split at h
    · rw [ok_bind] at h
      rcases exists_of_bind_ok _ _ _ h with ⟨enabled, _, h⟩
      rcases exists_of_bind_ok _ _ _ h with ⟨marked, _, h⟩
      rcases exists_of_bind_ok _ _ _ h with ⟨_, _, h⟩
      rcases exists_of_bind_ok _ _ _ h with ⟨severity, _, h⟩
      rcases exists_of_bind_ok _ _ _ h with ⟨_, _, h⟩
      rcases exists_of_bind_ok _ _ _ h with ⟨category, _, h⟩
      rcases exists_of_bind_ok _ _ _ h with ⟨compliance, _, h⟩
      rcases exists_of_bind_ok _ _ _ h with ⟨patterns, hpatterns, h⟩
      rcases exists_of_bind_ok _ _ _ h with ⟨quickFix, _, h⟩
      rw [← Except.ok.inj h]
      exact ⟨hid, hname, hdescription, ⟨v, vs, hpatterns⟩, marked, rfl⟩
    · exact nomatch h
  · exact nomatch h

/-- A rule that is read is in its normal form. -/
theorem isNormal_of_decodeEntries (entries : Value.Entries) (custom : Bool) (r : Rule)
    (h : decodeEntries entries custom = .ok r) : r.IsNormal := by
  rcases exists_of_decodeEntries entries custom r h with
    ⟨hid, hname, hdescription, ⟨v, vs, hpatterns⟩, _⟩
  rcases exists_of_mem_mapM _ _ _ hpatterns with ⟨hlength, hsource⟩
  -- Each pattern of the rule comes from a value that was read as a pattern.
  have hnormal : ∀ p ∈ r.patterns, p.text ≠ "" ∧ ∀ t ∈ p.fileTypes, IsFileType t := by
    intro p hp
    rcases hsource p hp with ⟨w, _, hw⟩
    exact normal_of_decodePattern r.id w p hw
  exact ⟨isName_of_requiredText _ entries _ _ hid, isName_of_requiredText _ entries _ _ hname,
    isName_of_requiredText _ entries _ _ hdescription,
    List.ne_nil_of_length_pos (hlength ▸ Nat.succ_pos _), fun p hp => (hnormal p hp).1,
    fun p hp => (hnormal p hp).2⟩

theorem isName_severity (s : Severity) : IsName s.label := by
  -- The names are fixed texts, so that nothing is left but to look at them.
  refine ⟨?_, (trim_eq_self_iff _).mp ?_⟩
  · cases s
    all_goals decide
  · cases s
    all_goals rfl

theorem isName_category (c : Category) : IsName c.label := by
  refine ⟨?_, (trim_eq_self_iff _).mp ?_⟩
  · cases c
    all_goals decide
  · cases c
    all_goals rfl

/-- A rule in its normal form is read back from its document, if it is marked as custom where the
    caller says that it is. -/
theorem decode_encode (r : Rule) (custom : Bool) (h : r.IsNormal)
    (hcustom : custom = true → r.custom = true) : decode r.encode custom = .ok r := by
  have hpatterns : (r.patterns.map encodePattern).mapM (decodePattern r.id) = .ok r.patterns :=
    mapM_map_ok _ _ _ fun p hp =>
      decodePattern_encodePattern r.id p (h.texts p hp) (h.fileTypes p hp)
  have htags : (r.compliance.map ComplianceTag.encode).mapM
      (fun t => under r.id (ComplianceTag.decode t.opened)) = .ok r.compliance :=
    mapM_map_ok _ _ _ fun t _ => by
      rw [show t.encode.opened = t.encode from rfl, t.decode_encode, under_ok]
  have hfix : decodeFix r.id (encodeFix r.quickFix) = .ok r.quickFix := by
    cases r.quickFix with
    | none => rfl
    | some q =>
        have htruthy : q.encode.isTruthy = true := rfl
        have hopened : q.encode.opened = q.encode := rfl
        rw [encodeFix, decodeFix, if_pos htruthy, hopened, q.decode_encode]
        rfl
  have hmarked : (custom || r.custom) = r.custom := by
    cases custom with
    | true => rw [hcustom rfl, Bool.or_true]
    | false => rw [Bool.false_or]
  unfold encode decode decodeEntries
  rw [Value.opened_mapping]
  dsimp only
  -- The entries stay a name while the fields are read.
  generalize hentries : [((.text "id" : Value), Value.text r.id), (.text "name", .text r.name),
    (.text "description", .text r.description), (.text "severity", .text r.severity.label),
    (.text "category", .text r.category.label),
    (.text "compliance", .list (r.compliance.map ComplianceTag.encode)),
    (.text "patterns", .list (r.patterns.map encodePattern)),
    (.text "quickFix", encodeFix r.quickFix), (.text "enabled", .bool r.enabled),
    (.text "custom", .bool r.custom)] = entries
  have hid := requiredText_of_isName .broken entries "id" r.id h.id (by rw [← hentries]; rfl)
  have hname := requiredText_of_isName .broken entries "name" r.name h.name
    (by rw [← hentries]; rfl)
  have hdescription := requiredText_of_isName .broken entries "description" r.description
    h.description (by rw [← hentries]; rfl)
  have hseverity := requiredText_of_isName (unfit r.id) entries "severity" r.severity.label
    (isName_severity r.severity) (by rw [← hentries]; rfl)
  have hcategory := requiredText_of_isName (unfit r.id) entries "category" r.category.label
    (isName_category r.category) (by rw [← hentries]; rfl)
  have htagList : Value.get? "compliance" entries =
      some (.list (r.compliance.map ComplianceTag.encode)) := by rw [← hentries]; rfl
  have hpatternList : Value.get? "patterns" entries =
      some (.list (r.patterns.map encodePattern)) := by rw [← hentries]; rfl
  have hfixValue : Value.get? "quickFix" entries = some (encodeFix r.quickFix) := by
    rw [← hentries]; rfl
  have henabled : switch entries r.id "enabled" true = .ok r.enabled := by
    rw [← hentries]; rfl
  have hswitch : switch entries r.id "custom" false = .ok r.custom := by rw [← hentries]; rfl
  have hsome : r.patterns.map encodePattern ≠ [] := mt List.map_eq_nil_iff.mp h.some
  simp only [hid, hname, hdescription, hpatternList, htagList, hfixValue, Option.getD_some,
    orElse_list, ok_bind, henabled, hswitch, hseverity, hcategory]
  generalize r.patterns.map encodePattern = forms at hpatterns hsome
  cases forms with
  | nil => exact absurd rfl hsome
  | cons v vs =>
      simp only [Severity.parse_label, Category.parse_label, under_ok, ok_bind, htags, hpatterns,
        hfix, hmarked]
      rfl

/-- The rules that can be read are those in their normal form, as far as they are marked as custom
    where the caller says so. -/
theorem exists_decode_iff (r : Rule) (custom : Bool) :
    (∃ v, decode v custom = .ok r) ↔ r.IsNormal ∧ (custom = true → r.custom = true) := by
  constructor
  · rintro ⟨v, h⟩
    unfold decode at h
    split at h
    -- Only the mapping is read, and in it the caller has the last word about the mark.
    · rename_i entries _
      refine ⟨isNormal_of_decodeEntries entries custom r h, fun hcustom => ?_⟩
      rcases (exists_of_decodeEntries entries custom r h).2.2.2.2 with ⟨marked, hmarked⟩
      rw [hmarked, hcustom, Bool.true_or]
    · exact nomatch h
  · exact fun h => ⟨r.encode, decode_encode r custom h.1 h.2⟩

/-- A rule that was read has a name of each kind, without blanks around it, and at least one
    pattern. Its patterns have a text, and file types in small letters without points in front. It
    is marked as custom if the caller said so. Written out as a document and read again, it is the
    same rule. -/
theorem normal_of_decode (v : Value) (custom : Bool) (r : Rule) (h : decode v custom = .ok r) :
    (∀ s ∈ [r.id, r.name, r.description], s ≠ "" ∧ IsTrimmed s.toList) ∧ r.patterns ≠ [] ∧
    (∀ p ∈ r.patterns, p.text ≠ "" ∧
      ∀ t ∈ p.fileTypes, t.toList.head? ≠ some '.' ∧ lowered t = t) ∧
    (custom = true → r.custom = true) ∧ decode r.encode custom = .ok r := by
  rcases (exists_decode_iff r custom).mp ⟨v, h⟩ with ⟨hnormal, hcustom⟩
  refine ⟨?_, hnormal.some, fun p hp => ⟨hnormal.texts p hp, hnormal.fileTypes p hp⟩, hcustom,
    decode_encode r custom hnormal hcustom⟩
  simp only [List.forall_mem_cons]
  exact ⟨hnormal.id, hnormal.name, hnormal.description, fun _ hs => absurd hs List.not_mem_nil⟩

/-- A document with values of other kinds, blanks around its texts, capital letters, and points in
    front of file types. -/
def spelledDocument : Value :=
  .mapping
    [(.text "id", .int 7), (.text "name", .text "\u00a0Odd\tname\n"),
     (.text "description", .bool true), (.text "severity", .text " hIGH"),
     (.text "category", .text "Secrets"),
     (.text "compliance", .list
       [.mapping [(.text "framework", .text "CWE "), (.text "control", .int 79)]]),
     (.text "patterns", .list
       [.mapping [(.text "pattern", .text " "),
         (.text "fileTypes", .list [.text "..PY", .text "ΌΣΟΣ", .text "İ.", .null])]]),
     (.text "quickFix", .mapping [(.text "type", .text "Remove")])]

theorem normal_of_decode_spelled : ∃ r, decode spelledDocument true = .ok r ∧ r.id = "7" ∧
    r.name = "Odd\tname" ∧
    r.patterns.map RulePattern.fileTypes = [["py", "όσος", "i\u0307.", "none"]] ∧
    r.custom = true ∧ decode r.encode true = .ok r := by
  rcases exists_of_toOption_map (decode spelledDocument true)
    (fun r => (r.id, r.name, r.patterns.map RulePattern.fileTypes))
    ("7", "Odd\tname", [["py", "όσος", "i\u0307.", "none"]]) (by decide +kernel) with
    ⟨r, hr, hfields⟩
  rw [Prod.mk.injEq, Prod.mk.injEq] at hfields
  have hnormal := normal_of_decode spelledDocument true r hr
  exact ⟨r, hr, hfields.1, hfields.2.1, hfields.2.2, hnormal.2.2.2.1 rfl, hnormal.2.2.2.2⟩

end Rule

end CodeAudit
