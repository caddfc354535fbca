import CodeAudit.Config.Basic
import CodeAudit.Proofs.Config.Loading
import CodeAudit.Proofs.Report.Labels

/-!
# Overlays of Configurations

What documents laid over a configuration one after the other leave in its fields.

A document lets its keys take effect in a fixed order, and stops at the first value that is not
valid. What it has set before stays set, so after several documents, some of which have stopped
half-way, the configuration is a mixture of all of them. Field by field the mixture is simple. The
value of a field is the one that the last document has given it, and a document gives a field a
value if it has a valid one under the key of the field and gets as far as that key, which it does if
there is no invalid value under a key that comes earlier.

A field and its key are one thing here. `Field.Means` says which values are valid, without going
through the reading of them, and `get_assignKeys` is the induction over the keys of one document.
Other fields than that of a key are left alone, and the order enters only through the keys in front.
The induction over the documents adds nothing to it but which of them was the last.

## Main definitions

* `Config.Field`: A field of a configuration.
* `Config.Field.Holds`: What a field holds.
* `Config.Field.Means`: A value is valid under the key of a field.
* `Config.Field.Takes`: A document gives a field a value.
* `Config.overlays`: A configuration with documents laid over it.

## Theorems

* `Config.keys_eq`: The keys of documents are those of the fields, in their order.
* `Config.get_assignKeys`: What some of the keys of a document do to a field.
* `Config.get_moment`: A field changes when it is its turn, and at no other moment.
* `Config.overlay_stops_iff`: A document that stops has an invalid value.
* `Config.cases_of_overlays`: What documents leave in a field.
* `Config.fields_of_overlays`: What documents leave in a field, however each of them ends.
-/

namespace CodeAudit

namespace Config

/-! ## Fields -/

/-- A field of a configuration. -/
inductive Field
  | includes
  | excludes
  | enabledRules
  | disabledRules
  | customRulesPath
  | minSeverity
deriving DecidableEq

namespace Field

/-- The fields, in the order in which the keys of documents take effect. -/
def all : List Field :=
  [includes, excludes, enabledRules, disabledRules, customRulesPath, minSeverity]

/-- The place of a field in the order, from zero. -/
def place (f : Field) : Nat :=
  all.idxOf f

/-- What a field holds. -/
abbrev Holds : Field → Type
  | includes | excludes | enabledRules | disabledRules => List String
  | customRulesPath => String
  | minSeverity => Severity

/-- The key of a field in documents. -/
def name : Field → String
  | includes => "include"
  | excludes => "exclude"
  | enabledRules => "enabledRules"
  | disabledRules => "disabledRules"
  | customRulesPath => "customRulesPath"
  | minSeverity => "minSeverity"

/-- What a field of a configuration holds. -/
def get : (f : Field) → Config → f.Holds
  | includes, c => c.includes
  | excludes, c => c.excludes
  | enabledRules, c => c.enabledRules
  | disabledRules, c => c.disabledRules
  | customRulesPath, c => c.customRulesPath
  | minSeverity, c => c.minSeverity

/-- A configuration with another value in a field. -/
def set : (f : Field) → Config → f.Holds → Config
  | includes, c, x => { c with includes := x }
  | excludes, c, x => { c with excludes := x }
  | enabledRules, c, x => { c with enabledRules := x }
  | disabledRules, c, x => { c with disabledRules := x }
  | customRulesPath, c, x => { c with customRulesPath := x }
  | minSeverity, c, x => { c with minSeverity := x }

/-- How the value of a document is read for a field. -/
def read : (f : Field) → Value → Except ConfigError f.Holds
  | includes => listOfTexts "include"
  | excludes => listOfTexts "exclude"
  | enabledRules => listOfTexts "enabledRules"
  | disabledRules => listOfTexts "disabledRules"
  | customRulesPath => pathText
  | minSeverity => severityOf

/-- The key of a field. -/
def key (f : Field) : Key :=
  ⟨f.name, fun c v => do return f.set c (← f.read v)⟩

/-- A value is valid under the key of a field, and means this: a list of texts, a text, or a value
    that shows the name of a severity, up to blanks around it and the case of letters. -/
def Means : (f : Field) → Value → f.Holds → Prop
  | includes, v, texts | excludes, v, texts | enabledRules, v, texts | disabledRules, v, texts =>
    v = .list (texts.map .text)
  | customRulesPath, v, s => v = .text s
  | minSeverity, v, s => uppered (trimmed v.shown) = s.name

theorem mem_all (f : Field) : f ∈ all := by
  cases f
  all_goals decide

@[simp] theorem get_set (f : Field) (c : Config) (x : f.Holds) : f.get (f.set c x) = x := by
  cases f
  all_goals rfl

theorem get_set_of_ne (f g : Field) (c : Config) (x : f.Holds) (h : g ≠ f) :
    g.get (f.set c x) = g.get c := by
  cases f
  all_goals
    cases g
    all_goals first | rfl | exact absurd rfl h

theorem listOfTexts_eq_ok_iff (key : String) (v : Value) (texts : List String) :
    listOfTexts key v = .ok texts ↔ v = .list (texts.map .text) := by
  cases v with
  | list items =>
      rw [listOfTexts, Value.list.injEq]
      -- A list is read if all of its items are texts, and one that is no text makes any other
      -- reading impossible.
      rcases cases_of_textsOf items with ⟨found, hfound, hitems⟩ | ⟨hnone, v, hv, hodd⟩
      · rw [hfound, hitems]
        dsimp only
        rw [Except.ok.injEq, List.map_inj_right fun _ _ h => Value.text.inj h]
      · rw [hnone]
        refine ⟨(fun h => nomatch h), fun h => ?_⟩
        rw [h] at hv
        rcases List.mem_map.mp hv with ⟨s, _, hs⟩
        exact absurd hs.symm (hodd s)
  | _ => exact ⟨(fun h => nomatch h), fun h => nomatch h⟩

/-- What a value means is what is read from it. -/
theorem read_eq_ok_iff (f : Field) (v : Value) (x : f.Holds) :
    f.read v = .ok x ↔ f.Means v x := by
  cases f with
  | customRulesPath =>
      cases v with
      | text s =>
          exact ⟨fun h => congrArg _ (Except.ok.inj h), fun h => congrArg _ (Value.text.inj h)⟩
      | _ => exact ⟨(fun h => nomatch h), fun h => nomatch h⟩
  | minSeverity =>
      rw [read, severityOf, Means, ← Severity.parse_eq_ok_iff]
      cases Severity.parse v with
      | ok s =>
          dsimp only
          rw [Except.ok.injEq, Except.ok.injEq]
      | error e => exact ⟨(fun h => nomatch h), fun h => nomatch h⟩
  | _ => exact listOfTexts_eq_ok_iff _ v x

/-- What a field holds is the meaning of a value. -/
theorem exists_means (f : Field) (x : f.Holds) : ∃ v, f.Means v x := by
  cases f with
  | customRulesPath => exact ⟨.text x, rfl⟩
  | minSeverity =>
      exact ⟨.text x.label, (Severity.parse_eq_ok_iff _ x).mp (Severity.parse_label x)⟩
  | _ => exact ⟨.list (x.map .text), rfl⟩

/-! ## Documents -/

/-- A document has a valid value under the key of a field. -/
def Given (f : Field) (doc : Value.Entries) (x : f.Holds) : Prop :=
  ∃ v, Value.get? f.name doc = some v ∧ f.Means v x

/-- A document has an invalid value under the key of a field. -/
def Spoilt (f : Field) (doc : Value.Entries) : Prop :=
  ∃ v, Value.get? f.name doc = some v ∧ ∀ x, ¬ f.Means v x

/-- A document gives a field a value: it has a valid one under the key of the field, and no invalid
    one under a key that comes earlier. -/
structure Takes (f : Field) (doc : Value.Entries) (x : f.Holds) : Prop where
  given : f.Given doc x
  reached : ∀ g : Field, g.place < f.place → ¬ g.Spoilt doc

/-- A document gives a field a value if only the keys of some fields are looked at. -/
structure TakesAmong (fs : List Field) (f : Field) (doc : Value.Entries) (x : f.Holds) : Prop where
  looked : f ∈ fs
  given : f.Given doc x
  reached : ∀ g ∈ fs, g.place < f.place → ¬ g.Spoilt doc

theorem Given.unique {f : Field} {doc : Value.Entries} {x y : f.Holds} (hx : f.Given doc x)
    (hy : f.Given doc y) : x = y := by
  rcases hx with ⟨v, hv, hx⟩
  rcases hy with ⟨w, hw, hy⟩
  rw [← read_eq_ok_iff] at hx hy
  rw [hv, Option.some.injEq] at hw
  rw [← hw, hx] at hy
  exact Except.ok.inj hy

theorem Given.not_spoilt {f : Field} {doc : Value.Entries} {x : f.Holds} (hx : f.Given doc x) :
    ¬ f.Spoilt doc := by
  rintro ⟨w, hw, hodd⟩
  rcases hx with ⟨v, hv, hx⟩
  rw [hv, Option.some.injEq] at hw
  exact hodd x (hw ▸ hx)

/-- Nothing is to be said of a key in front that does not stop the document. -/
theorem takesAmong_cons_iff (f g : Field) (fs : List Field) (doc : Value.Entries) (hg : f ≠ g)
    (hclear : ¬ g.Spoilt doc) (x : f.Holds) :
    TakesAmong (g :: fs) f doc x ↔ TakesAmong fs f doc x := by
  constructor
  · intro h
    exact ⟨(List.mem_cons.mp h.looked).resolve_left hg, h.given,
      fun g' hg' => h.reached g' (List.mem_cons_of_mem g hg')⟩
  · intro h
    refine ⟨List.mem_cons_of_mem g h.looked, h.given, ?_⟩
    rw [List.forall_mem_cons]
    exact ⟨fun _ => hclear, h.reached⟩

/-- The first key that is looked at has none in front of it. -/
theorem takesAmong_first_iff (f : Field) (fs : List Field) (doc : Value.Entries)
    (hfs : ∀ g ∈ fs, f.place < g.place) (x : f.Holds) :
    TakesAmong (f :: fs) f doc x ↔ f.Given doc x := by
  refine ⟨TakesAmong.given, fun h => ⟨List.mem_cons_self, h, ?_⟩⟩
  rw [List.forall_mem_cons]
  exact ⟨fun hlt => absurd hlt (Nat.lt_irrefl _),
    fun g hg hlt => absurd hlt (Nat.lt_asymm (hfs g hg))⟩

end Field

/-- The keys of documents are those of the fields, in their order. -/
theorem keys_eq : keys = Field.all.map Field.key := rfl

/-! ## One document -/

/-- What the key of a field does: nothing if the document does not have it, and otherwise it sets
    the field or stops the document. -/
theorem cases_of_key (doc : Value.Entries) (f : Field) (ks : List Key) (c : Config) :
    (((∀ x, ¬ f.Given doc x) ∧ ¬ f.Spoilt doc) ∧
      assignKeys (.mapping doc) (f.key :: ks) c = assignKeys (.mapping doc) ks c) ∨
    (∃ x, f.Given doc x ∧
      assignKeys (.mapping doc) (f.key :: ks) c = assignKeys (.mapping doc) ks (f.set c x)) ∨
    (f.Spoilt doc ∧
      ∃ e, assignKeys (.mapping doc) (f.key :: ks) c = (c, .error (.config e))) := by
  have hkey : keyOf f.key.name (.mapping doc) = .ok (Value.get? f.name doc) := rfl
  -- The key is absent, or holds a value that is read or not.
  rw [assignKeys, hkey]
  cases hget : Value.get? f.name doc with
  | none =>
      refine Or.inl ⟨⟨?_, ?_⟩, rfl⟩
      · rintro x ⟨v, hv, _⟩
        exact Option.some_ne_none v (hv.symm.trans hget)
      · rintro ⟨v, hv, _⟩
        exact Option.some_ne_none v (hv.symm.trans hget)
  | some v =>
      refine Or.inr ?_
      have hassign : f.key.assign c v = f.read v >>= fun x => .ok (f.set c x) := rfl
      dsimp only
      rw [hassign]
      cases hread : f.read v with
      | ok x => exact Or.inl ⟨x, ⟨v, hget, (f.read_eq_ok_iff v x).mp hread⟩, rfl⟩
      | error e =>
          refine Or.inr ⟨⟨v, hget, fun x hx => ?_⟩, e, rfl⟩
          rw [← Field.read_eq_ok_iff, hread] at hx
          cases hx

/-- The keys of other fields leave a field alone. -/
theorem get_assignKeys_of_not_mem (doc : Value.Entries) (f : Field) (fs : List Field)
    (hf : f ∉ fs) : ∀ c, f.get (assignKeys (.mapping doc) (fs.map Field.key) c).1 = f.get c := by
  induction fs with
  | nil => exact fun c => rfl
  | cons g fs ih =>
      intro c
      rw [List.mem_cons, not_or] at hf
      rw [List.map_cons]
      rcases cases_of_key doc g (fs.map Field.key) c with ⟨_, heq⟩ | ⟨x, _, heq⟩ | ⟨_, e, heq⟩
      · rw [heq, ih hf.2]
      · rw [heq, ih hf.2, Field.get_set_of_ne g f c x hf.1]
      · rw [heq]

/-- What the key of a field and those behind it do to the field. -/
theorem get_assignKeys_first (doc : Value.Entries) (f : Field) (fs : List Field) (hf : f ∉ fs)
    (c : Config) :
    (∃ x, f.Given doc x ∧
      f.get (assignKeys (.mapping doc) (f.key :: fs.map Field.key) c).1 = x) ∨
    (∀ x, ¬ f.Given doc x) ∧
      f.get (assignKeys (.mapping doc) (f.key :: fs.map Field.key) c).1 = f.get c := by
  rcases cases_of_key doc f (fs.map Field.key) c with
    ⟨⟨hnone, _⟩, heq⟩ | ⟨x, hx, heq⟩ | ⟨hspoilt, e, heq⟩
  · exact Or.inr ⟨hnone, by rw [heq, get_assignKeys_of_not_mem doc f fs hf]⟩
  · exact Or.inl ⟨x, hx, by rw [heq, get_assignKeys_of_not_mem doc f fs hf, Field.get_set]⟩
  · exact Or.inr ⟨fun x hx => hx.not_spoilt hspoilt, by rw [heq]⟩

-- The induction is on the keys. A key in front of that of the field changes another field or stops
-- the document, and the keys behind it make no difference any more.
theorem get_assignKeys (doc : Value.Entries) (f : Field) (fs : List Field)
    (hfs : fs.Pairwise fun g h => g.place < h.place) : ∀ c,
      (∃ x, Field.TakesAmong fs f doc x ∧
        f.get (assignKeys (.mapping doc) (fs.map Field.key) c).1 = x) ∨
      (∀ x, ¬ Field.TakesAmong fs f doc x) ∧
        f.get (assignKeys (.mapping doc) (fs.map Field.key) c).1 = f.get c := by
  induction fs with
  | nil => exact fun c => Or.inr ⟨fun x h => absurd h.looked List.not_mem_nil, rfl⟩
  | cons g fs ih =>
      intro c
      rw [List.pairwise_cons] at hfs
      rw [List.map_cons]
      -- The key of the field itself has its turn once. Any other key is in front of it, or
      -- comes too late.
      by_cases hg : f = g
      · subst hg
        have hnot : f ∉ fs := fun hmem => Nat.lt_irrefl _ (hfs.1 f hmem)
        simp only [Field.takesAmong_first_iff f fs doc hfs.1]
        exact get_assignKeys_first doc f fs hnot c
      · have hrest := Field.takesAmong_cons_iff f g fs doc hg
        rcases cases_of_key doc g (fs.map Field.key) c with
          ⟨⟨_, hclear⟩, heq⟩ | ⟨x, hx, heq⟩ | ⟨hspoilt, e, heq⟩
        · rw [heq]
          simp only [hrest hclear]
          exact ih hfs.2 c
        · rw [heq, ← Field.get_set_of_ne g f c x hg]
          simp only [hrest hx.not_spoilt]
          exact ih hfs.2 (g.set c x)
        · refine Or.inr ⟨fun x hx => ?_, by rw [heq]⟩
          have hmem := (List.mem_cons.mp hx.looked).resolve_left hg
          exact hx.reached g List.mem_cons_self (hfs.1 f hmem) hspoilt

theorem pairwise_place : Field.all.Pairwise fun g h => g.place < h.place := by decide

/-- Behind the keys of the fields a document changes nothing any more, and no value is invalid. -/
theorem overlay_of_assignKeys (c : Config) (doc : Value.Entries) :
    (c.overlay (.mapping doc)).1 =
        (assignKeys (.mapping doc) (Field.all.map Field.key) c).1 ∧
      ∀ e, (c.overlay (.mapping doc)).2 = .error (.config e) ↔
        (assignKeys (.mapping doc) (Field.all.map Field.key) c).2 = .error (.config e) := by
  rw [overlay, keys_eq]
  rcases assignKeys (.mapping doc) (Field.all.map Field.key) c with ⟨changed, result⟩
  -- The strange keys are looked at last, and a key that is no text is no mistake of the
  -- configuration.
  cases result with
  | error e =>
      refine ⟨rfl, fun e' => ?_⟩
      dsimp only
      rw [Except.error.injEq, Except.error.injEq]
  | ok _ =>
      dsimp only
      cases unknownKeys (.mapping doc) with
      | ok unknown => exact ⟨rfl, fun e => iff_of_false (fun h => by cases h) fun h => by cases h⟩
      | error f => exact ⟨rfl, fun e => iff_of_false (fun h => by cases h) fun h => by cases h⟩

/-- What a document laid over a configuration does to a field, however it ends. -/
theorem get_overlay (c : Config) (doc : Value.Entries) (f : Field) :
    (∃ x, f.Takes doc x ∧ f.get (c.overlay (.mapping doc)).1 = x) ∨
      (∀ x, ¬ f.Takes doc x) ∧ f.get (c.overlay (.mapping doc)).1 = f.get c := by
  have hall : ∀ x, Field.TakesAmong Field.all f doc x ↔ f.Takes doc x := fun x =>
    ⟨fun h => ⟨h.given, fun g => h.reached g g.mem_all⟩,
      fun h => ⟨f.mem_all, h.given, fun g _ => h.reached g⟩⟩
  have hget := get_assignKeys doc f Field.all pairwise_place c
  simp only [hall] at hget
  rw [(overlay_of_assignKeys c doc).1]
  exact hget

/-- A field changes when it is its turn, and at no other moment. -/
theorem get_moment (c : Config) (doc : Value.Entries) (f : Field) (n : Nat) :
    f.get (assignKeys (.mapping doc) (keys.take n) c).1 =
      if f.place < n then f.get (c.overlay (.mapping doc)).1 else f.get c := by
  have hmem : ∀ g : Field, g ∈ Field.all.take n ↔ g.place < n :=
    fun g => List.mem_take_iff_idxOf_lt g.mem_all
  have htake : (keys.take n) = (Field.all.take n).map Field.key := by
    rw [keys_eq, List.map_take]
  rw [htake]
  -- A field whose turn has come holds what it will hold in the end.
  by_cases hf : f.place < n
  · have hamong : ∀ x, Field.TakesAmong (Field.all.take n) f doc x ↔ f.Takes doc x := fun x =>
      ⟨fun h => ⟨h.given, fun g hlt => h.reached g ((hmem g).mpr (Nat.lt_trans hlt hf)) hlt⟩,
        fun h => ⟨(hmem f).mpr hf, h.given, fun g _ => h.reached g⟩⟩
    have hget := get_assignKeys doc f _ (pairwise_place.sublist (List.take_sublist n _)) c
    simp only [hamong] at hget
    rw [if_pos hf]
    rcases hget with ⟨x, hx, heq⟩ | ⟨hnot, heq⟩
    · rcases get_overlay c doc f with ⟨y, hy, heq'⟩ | ⟨hnot, _⟩
      · rw [heq, heq', hx.given.unique hy.given]
      · exact absurd hx (hnot x)
    · rcases get_overlay c doc f with ⟨y, hy, _⟩ | ⟨_, heq'⟩
      · exact absurd hy (hnot y)
      · rw [heq, heq']
  · rw [if_neg hf]
    exact get_assignKeys_of_not_mem doc f _ (fun h => hf ((hmem f).mp h)) c

/-- Keys stop the document if there is an invalid value under one of them. -/
theorem assignKeys_stops_iff (doc : Value.Entries) (fs : List Field) : ∀ c,
    (∃ e, (assignKeys (.mapping doc) (fs.map Field.key) c).2 = .error (.config e)) ↔
      ∃ f ∈ fs, f.Spoilt doc := by
  induction fs with
  | nil =>
      refine fun c => iff_of_false ?_ ?_
      · rintro ⟨e, h⟩
        cases h
      · rintro ⟨f, hf, _⟩
        exact List.not_mem_nil hf
  | cons g fs ih =>
      intro c
      rw [List.map_cons, List.exists_mem_cons_iff]
      rcases cases_of_key doc g (fs.map Field.key) c with
        ⟨⟨_, hclear⟩, heq⟩ | ⟨x, hx, heq⟩ | ⟨hspoilt, e, heq⟩
      · rw [heq, ih c, or_iff_right hclear]
      · rw [heq, ih _, or_iff_right hx.not_spoilt]
      · rw [heq]
        exact iff_of_true ⟨e, rfl⟩ (Or.inl hspoilt)

/-- A document stops at an invalid value if it has one. -/
theorem overlay_stops_iff (c : Config) (doc : Value.Entries) :
    (∃ e, (c.overlay (.mapping doc)).2 = .error (.config e)) ↔ ∃ f : Field, f.Spoilt doc := by
  have hall : (∃ f : Field, f.Spoilt doc) ↔ ∃ f ∈ Field.all, f.Spoilt doc :=
    exists_congr fun f => (and_iff_right f.mem_all).symm
  rw [hall, ← assignKeys_stops_iff doc Field.all c]
  exact exists_congr (overlay_of_assignKeys c doc).2

/-! ## Several documents -/

/-- A configuration with documents laid over it one after the other, whether they stop or not. -/
def overlays (c : Config) (docs : List Value.Entries) : Config :=
  docs.foldl (fun c doc => (c.overlay (.mapping doc)).1) c

/-- The last document that gives a field a value decides about it. -/
theorem cases_of_overlays (f : Field) (docs : List Value.Entries) : ∀ c,
    (∃ front doc back x, docs = front ++ doc :: back ∧ f.Takes doc x ∧
      (∀ d ∈ back, ∀ y, ¬ f.Takes d y) ∧ f.get (overlays c docs) = x) ∨
    (∀ d ∈ docs, ∀ y, ¬ f.Takes d y) ∧ f.get (overlays c docs) = f.get c := by
  induction docs with
  | nil => exact fun c => Or.inr ⟨fun d hd => absurd hd List.not_mem_nil, rfl⟩
  | cons doc docs ih =>
      intro c
      have hstep : overlays c (doc :: docs) = overlays (c.overlay (.mapping doc)).1 docs := rfl
      rw [hstep]
      -- The documents behind are asked first, since any of them that gives a value counts for
      -- more.
      rcases ih (c.overlay (.mapping doc)).1 with
        ⟨front, d, back, x, hdocs, hx, hback, heq⟩ | ⟨hnone, heq⟩
      · exact Or.inl ⟨doc :: front, d, back, x, by rw [hdocs]; rfl, hx, hback, heq⟩
      · rw [heq]
        rcases get_overlay c doc f with ⟨x, hx, heq'⟩ | ⟨hnot, heq'⟩
        · exact Or.inl ⟨[], doc, docs, x, rfl, hx, hnone, heq'⟩
        · rw [List.forall_mem_cons]
          exact Or.inr ⟨⟨hnot, hnone⟩, heq'⟩

/-- Documents are laid over a configuration field by field, however each of them ends. A field holds
    the value that the last document has given it which gets as far as its key, and what it held
    before if there is none. A document that stops does so because of an invalid value. At every
    moment, also in the middle of a document, a field holds what it held before the document or what
    it holds after it, and that is what a valid value means. -/
theorem fields_of_overlays (c : Config) (docs : List Value.Entries) (f : Field) :
    ((∃ front doc back x, docs = front ++ doc :: back ∧ f.Takes doc x ∧
        (∀ d ∈ back, ∀ y, ¬ f.Takes d y) ∧ f.get (overlays c docs) = x) ∨
      (∀ d ∈ docs, ∀ y, ¬ f.Takes d y) ∧ f.get (overlays c docs) = f.get c) ∧
    ∀ front doc back, docs = front ++ doc :: back →
      ((∃ e, ((overlays c front).overlay (.mapping doc)).2 = .error (.config e)) ↔
        ∃ g : Field, g.Spoilt doc) ∧
      ∀ n, f.get (assignKeys (.mapping doc) (keys.take n) (overlays c front)).1 =
          (if f.place < n then f.get (overlays c (front ++ [doc])) else f.get (overlays c front)) ∧
        ∃ v, f.Means v (f.get (assignKeys (.mapping doc) (keys.take n) (overlays c front)).1) := by
  refine ⟨cases_of_overlays f docs c, fun front doc back _ =>
    ⟨overlay_stops_iff _ doc, fun n => ?_⟩⟩
  have hlast : overlays c (front ++ [doc]) = ((overlays c front).overlay (.mapping doc)).1 := by
    rw [overlays, List.foldl_append]
    rfl
  rw [hlast]
  exact ⟨get_moment _ doc f n, f.exists_means _⟩

/-- A document that stops half-way has set the fields in front. -/
example : overlays standard [[(.text "minSeverity", .text "high"), (.text "include", .list []),
    (.text "exclude", .list [.int 3])]] = { standard with includes := [] } := by decide

end Config

end CodeAudit
