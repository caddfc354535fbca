import CodeAudit.Proofs.Json.RoundTrip
import CodeAudit.Proofs.Text.Utf8
import CodeAudit.Source

/-!
# Bytes of JSON Documents

That a document is the same after it has been on a disk.

The bytes of a file are decoded before they are read as JSON, and its line ends are made
equal. The first step gives any text back. The second one does not change the text of a
value: it is ASCII throughout, and the line ends it has are line feeds already. A carriage
return of a text inside the document is written as an escape, so it is not among the
characters that could be taken for a line end.

## Main definitions

* `Json.IsTextChar`: A character of a JSON text.

## Theorems

* `normalizeNewlines_of_ne`: A text without carriage returns is not changed.
* `Json.isTextChar_writeAt`: What is written is ASCII without carriage returns.
* `readDocument_write`: A file with the bytes of a plain value holds its text.
-/

namespace CodeAudit

/-- A text without carriage returns is not changed. -/
theorem normalizeNewlines_of_ne (cs : List Char) (h : ∀ c ∈ cs, c ≠ '\r') :
    normalizeNewlines cs = cs := by
  induction cs with
  | nil => rfl
  | cons c cs ih =>
      rw [List.forall_mem_cons] at h
      -- The last equation of the definition holds for a character that is not a carriage
      -- return only, and asks for that twice: alone and before a line feed.
      rw [normalizeNewlines, ih h.2]
      · exact fun _ heq => absurd heq h.1
      · exact h.1

namespace Json

/-- A character of a JSON text: ASCII, and no carriage return. -/
def IsTextChar (c : Char) : Prop :=
  c.toNat < 0x80 ∧ c ≠ '\r'

theorem isTextChar_of_isDigit (c : Char) (h : c.isDigit = true) : IsTextChar c := by
  refine ⟨?_, fun heq => absurd h (by rw [heq]; decide)⟩
  simp only [Char.isDigit, Bool.and_eq_true, decide_eq_true_eq] at h
  have hhigh : c.toNat ≤ 57 := h.2
  omega

theorem isTextChar_of_mem_name (name : String) (hname : name ∈ valueNames) :
    ∀ c ∈ name.toList, IsTextChar c := by
  -- `Bool`s here, so that the names are gone through without a decision on all characters.
  have hall : ∀ name ∈ valueNames, name.toList.all (fun c => c.toNat < 0x80 && c != '\r') := by
    decide
  intro c hc
  have hchar := List.all_eq_true.mp (hall name hname) c hc
  rw [Bool.and_eq_true, decide_eq_true_iff, bne_iff_ne] at hchar
  exact hchar

theorem isTextChar_number (x : Double) (h : x.IsCanonical) : ∀ c ∈ number x, IsTextChar c := by
  intro c hc
  rcases number_chars x h c hc with hchar | ⟨name, hname, hmem⟩
  · rcases hchar with hdigit | hother
    · exact isTextChar_of_isDigit c hdigit
    · have hall : ∀ c ∈ ['.', 'e', '+', '-'], c.toNat < 0x80 ∧ c ≠ '\r' := by
        simp only [List.forall_mem_cons, List.not_mem_nil, false_implies, implies_true]
        decide
      exact hall c hother
  · exact isTextChar_of_mem_name name hname c hmem

theorem isTextChar_integer (i : Int) : ∀ c ∈ (toString i).toList, IsTextChar c := by
  have hdigits : ∀ c ∈ Nat.toDigits 10 i.natAbs, IsTextChar c :=
    fun c hc => isTextChar_of_isDigit c (isDigit_of_mem_toDigits _ c hc)
  rw [toString_int_toList]
  by_cases hi : 0 ≤ i
  · rw [if_pos hi]
    exact hdigits
  · rw [if_neg hi]
    exact List.forall_mem_cons.mpr ⟨by unfold IsTextChar; decide, hdigits⟩

theorem isTextChar_of_isHexDigit (c : Char) (h : isHexDigit c = true) : IsTextChar c := by
  have hrange : 48 ≤ c.toNat ∧ c.toNat ≤ 102 := by
    rw [isHexDigit, hexValue?] at h
    -- In each range of the digits the bounds are at hand; outside of all three there is no
    -- value, against `h`.
    by_cases hdigit : 48 ≤ c.toNat ∧ c.toNat ≤ 57
    · omega
    by_cases hsmall : 97 ≤ c.toNat ∧ c.toNat ≤ 102
    · omega
    by_cases hcapital : 65 ≤ c.toNat ∧ c.toNat ≤ 70
    · omega
    · simp only [if_neg hdigit, if_neg hsmall, if_neg hcapital] at h
      exact Bool.noConfusion h
  refine ⟨by omega, fun heq => ?_⟩
  rw [heq] at hrange
  exact absurd hrange.1 (by decide)

/-- The marks that are written between the parts of a value. -/
theorem isTextChar_mark (c : Char)
    (h : c ∈ ['\\', 'u', '"', '[', ']', '\x7b', '\x7d', ',', ':', ' ', '\n']) :
    IsTextChar c := by
  have hall : ∀ c ∈ ['\\', 'u', '"', '[', ']', '\x7b', '\x7d', ',', ':', ' ', '\n'],
      c.toNat < 0x80 ∧ c ≠ '\r' := by
    simp only [List.forall_mem_cons, List.not_mem_nil, false_implies, implies_true]
    decide
  exact hall c h

theorem isTextChar_unitEscape (n : Nat) : ∀ c ∈ unitEscape n, IsTextChar c := by
  rw [unitEscape]
  simp only [List.forall_mem_cons]
  exact ⟨isTextChar_mark '\\' (by decide), isTextChar_mark 'u' (by decide),
    fun c hc => isTextChar_of_isHexDigit c (isHexDigit_of_mem_paddedHex 4 n c hc)⟩

theorem isTextChar_escaped (c : Char) : ∀ x ∈ escaped c, IsTextChar x := by
  -- A letter behind a backslash, the character itself, one unit, or a pair of units.
  rcases escaped_cases c with ⟨e, he, hletter⟩ | ⟨he, _, _, hlow, hhigh⟩ | ⟨he, _⟩ | ⟨he, _⟩
  · have hletters : e ∈ ['"', '\\', '/', 'b', 'f', 'n', 'r', 't'] := by
      unfold escapeChar? at hletter
      split at hletter
      all_goals first
        | exact absurd hletter (by simp only [reduceCtorEq, not_false_eq_true])
        | decide
    have hall : ∀ e ∈ ['"', '\\', '/', 'b', 'f', 'n', 'r', 't'],
        e.toNat < 0x80 ∧ e ≠ '\r' := by
      simp only [List.forall_mem_cons, List.not_mem_nil, false_implies, implies_true]
      decide
    rw [he]
    simp only [List.forall_mem_cons]
    exact ⟨isTextChar_mark '\\' (by decide), hall e hletters,
      fun _ hc => absurd hc List.not_mem_nil⟩
  · rw [he, List.forall_mem_singleton]
    refine ⟨by omega, fun heq => ?_⟩
    rw [heq] at hlow
    exact absurd hlow (by decide)
  · rw [he]
    exact isTextChar_unitEscape _
  · rw [he]
    exact List.forall_mem_append.mpr ⟨isTextChar_unitEscape _, isTextChar_unitEscape _⟩

theorem isTextChar_string (cs : List Char) : ∀ c ∈ string cs, IsTextChar c := by
  have hquote : IsTextChar '"' := isTextChar_mark '"' (by decide)
  have hbody : ∀ c ∈ cs.flatMap escaped, IsTextChar c := by
    intro c hc
    rcases List.mem_flatMap.mp hc with ⟨x, _, hx⟩
    exact isTextChar_escaped x c hx
  rw [string]
  simp only [List.forall_mem_cons, List.forall_mem_append, List.cons_append]
  exact ⟨hquote, hbody, hquote, fun _ hc => absurd hc List.not_mem_nil⟩

theorem isTextChar_newline (level : Nat) : ∀ c ∈ newline level, IsTextChar c := by
  rw [newline, List.forall_mem_cons]
  refine ⟨isTextChar_mark '\n' (by decide), fun c hc => ?_⟩
  rw [List.eq_of_mem_replicate hc]
  exact isTextChar_mark ' ' (by decide)

theorem isTextChar_writeItems (level : Nat) (items : List Value)
    (h : ∀ v ∈ items, ∀ c ∈ writeAt level v, IsTextChar c) :
    ∀ c ∈ writeItems level items, IsTextChar c := by
  induction items with
  | nil => exact fun _ hc => absurd hc List.not_mem_nil
  | cons v items ih =>
      rw [List.forall_mem_cons] at h
      rw [writeItems]
      simp only [List.forall_mem_cons, List.forall_mem_append, List.cons_append]
      exact ⟨isTextChar_mark ',' (by decide), ⟨isTextChar_newline level, h.1⟩, ih h.2⟩

theorem isTextChar_writeEntries (level : Nat) (entries : List (String × Value))
    (h : ∀ e ∈ entries, ∀ c ∈ writeAt level e.2, IsTextChar c) :
    ∀ c ∈ writeEntries level (textEntries entries), IsTextChar c := by
  induction entries with
  | nil => exact fun _ hc => absurd hc List.not_mem_nil
  | cons e entries ih =>
      rw [List.forall_mem_cons] at h
      rw [writeEntries_cons]
      simp only [List.forall_mem_cons, List.forall_mem_append, List.cons_append]
      exact ⟨isTextChar_mark ',' (by decide), ⟨⟨isTextChar_newline level, isTextChar_string _⟩,
        isTextChar_mark ':' (by decide), isTextChar_mark ' ' (by decide), h.1⟩, ih h.2⟩

/-- What is written is ASCII without carriage returns. -/
theorem isTextChar_writeAt (v : Value) (h : Plain v) :
    ∀ level, ∀ c ∈ writeAt level v, IsTextChar c := by
  induction h with
  | null => exact fun level => isTextChar_of_mem_name "null" (by decide)
  | bool b =>
      intro level
      cases b with
      | false => exact isTextChar_of_mem_name "false" (by decide)
      | true => exact isTextChar_of_mem_name "true" (by decide)
  | int i => exact fun level => isTextChar_integer i
  | float x hx => exact fun level => isTextChar_number x hx
  | text s => exact fun level => isTextChar_string s.toList
  | list items _ ih =>
      intro level
      have hopen := isTextChar_mark '[' (by decide)
      have hclose := isTextChar_mark ']' (by decide)
      cases items with
      | nil =>
          simp only [writeAt, List.forall_mem_cons]
          exact ⟨hopen, hclose, fun _ hc => absurd hc List.not_mem_nil⟩
      | cons v items =>
          -- The parts of a value stand one level deeper than the value.
          have hvalues := fun w hw => ih w hw (level + 1)
          rw [List.forall_mem_cons] at hvalues
          have hitems := isTextChar_writeItems (level + 1) items hvalues.2
          simp only [writeAt, List.forall_mem_cons, List.forall_mem_append, List.cons_append]
          exact ⟨hopen, ⟨⟨⟨isTextChar_newline _, hvalues.1⟩, hitems⟩, isTextChar_newline _⟩,
            hclose, fun _ hc => absurd hc List.not_mem_nil⟩
  | mapping entries _ _ ih =>
      intro level
      have hopen := isTextChar_mark '\x7b' (by decide)
      have hclose := isTextChar_mark '\x7d' (by decide)
      cases entries with
      | nil =>
          simp only [textEntries, List.map_nil, writeAt, List.forall_mem_cons]
          exact ⟨hopen, hclose, fun _ hc => absurd hc List.not_mem_nil⟩
      | cons e entries =>
          have hvalues := fun x hx => ih x hx (level + 1)
          rw [List.forall_mem_cons] at hvalues
          have hentries := isTextChar_writeEntries (level + 1) entries hvalues.2
          simp only [writeAt_textEntries, List.forall_mem_cons, List.forall_mem_append,
            List.cons_append]
          exact ⟨hopen, ⟨⟨⟨⟨isTextChar_newline _, isTextChar_string _⟩,
            isTextChar_mark ':' (by decide), isTextChar_mark ' ' (by decide), hvalues.1⟩,
            hentries⟩, isTextChar_newline _⟩, hclose, fun _ hc => absurd hc List.not_mem_nil⟩

end Json

/-- A file with the bytes of a plain value holds its text. -/
theorem readDocument_write (d : Disk) (path : String) (v : Value) (h : Json.Plain v)
    (hfile : d.fileContent path = .ok (Utf8.encode (Json.write v))) :
    readDocument d path = .ok (Json.write v) := by
  have hchars : ∀ c ∈ Json.write v, Json.IsTextChar c := Json.isTextChar_writeAt v h 0
  rw [readDocument, hfile]
  simp only [Utf8.decode?_encode]
  rw [normalizeNewlines_of_ne _ (fun c hc => (hchars c hc).2)]

end CodeAudit
