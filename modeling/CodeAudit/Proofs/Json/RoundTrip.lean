import CodeAudit.Proofs.Json.Float
import CodeAudit.Proofs.Json.Text

/-!
# JSON Documents

That a value is read back from its JSON text.

Not every value survives its text: a date becomes a string, and so does a key that is no
text. `Plain` collects the values that do, those that JSON has a form for. A floating point
number survives its text if it is one of the format.

The induction is on `Plain`. What is shown about a value is `Reads`: its text is read
whatever stands behind it, as long as that could not belong to a number. The texts of items
and entries are then read one after the other, where nothing but `Reads` of each is used.

The reader counts its calls down. Each call is paid for by a character of the text, since
every value is written with one at least and every further item with a comma.

## Main definitions

* `Json.textEntries`: The entries of a mapping whose keys are texts.
* `Json.Plain`: A value that JSON has a form for.
* `Json.Reads`: The text of a value is read, whatever stands behind it.

## Theorems

* `Json.readValue_head`: What is read as a value does not start with a blank or a bracket
  that closes.
* `Json.readItems_write`, `Json.readEntries_write`: Items and entries are read.
* `Json.reads_of_plain`: The text of a plain value is read.
* `Json.read_write`: A plain value is read back from its JSON text.
-/

namespace CodeAudit

namespace Json

/-- The entries of a mapping whose keys are texts. -/
def textEntries (entries : List (String × Value)) : Value.Entries :=
  entries.map fun e => (.text e.1, e.2)

/-- A value that JSON has a form for. The keys of a mapping are texts, no two of them
    equal. -/
inductive Plain : Value → Prop
  | null : Plain .null
  | bool (b : Bool) : Plain (.bool b)
  | int (i : Int) : Plain (.int i)
  | float (x : Double) (hx : x.IsCanonical) : Plain (.float x)
  | text (s : String) : Plain (.text s)
  | list (items : List Value) (hitems : ∀ v ∈ items, Plain v) : Plain (.list items)
  | mapping (entries : List (String × Value)) (hkeys : (entries.map Prod.fst).Nodup)
      (hvalues : ∀ e ∈ entries, Plain e.2) : Plain (.mapping (textEntries entries))

/-- The text of a value is read, whatever stands behind it. -/
def Reads (level : Nat) (v : Value) : Prop :=
  ∀ fuel rest, EndsNumber rest → (writeAt level v).length < fuel →
    readValue fuel (writeAt level v ++ rest) = .ok (v, rest)

/-- Reading takes at least one step. -/
theorem reads_of_succ (level : Nat) (v : Value)
    (h : ∀ n rest, EndsNumber rest → (writeAt level v).length ≤ n →
      readValue (n + 1) (writeAt level v ++ rest) = .ok (v, rest)) :
    Reads level v := by
  intro fuel rest hrest hfuel
  rcases Nat.exists_eq_succ_of_ne_zero (show fuel ≠ 0 by omega) with ⟨n, rfl⟩
  exact h n rest hrest (by omega)

/-! ## What a value starts with -/

/-- A character that opens neither a number nor a name opens no scalar. -/
theorem readScalar_eq_malformed (c : Char) (rest : List Char) (hdigit : c.isDigit = false)
    (hsign : c ≠ '-') (hname : ∀ name ∈ valueNames, name.toList.head? ≠ some c) :
    readScalar (c :: rest) = .error .malformed := by
  have hnone : readName (c :: rest) = none := by
    refine readName_of_dropName _ (fun name hmem => ?_)
    have hhead : ∀ name ∈ valueNames, ∃ x xs, name.toList = x :: xs := by
      intro name hmem
      refine List.exists_cons_of_ne_nil ?_
      revert name
      decide
    rcases hhead name hmem with ⟨x, xs, hx⟩
    refine dropName_of_head_ne name x c xs rest hx (fun heq => hname name hmem ?_)
    rw [hx, heq, List.head?_cons]
  -- Without a digit in front there is no number either.
  have hwhole : takeWhole (c :: rest) = none := by
    rw [takeWhole]
    · rw [spanDigits, List.takeWhile_cons, hdigit]
      rfl
    · intro _ heq
      rw [(List.cons.inj heq).1] at hdigit
      exact absurd hdigit (by decide)
  rw [readScalar, hnone]
  · simp only [readNumber, hwhole]
  · exact fun _ heq => hsign (List.cons.inj heq).1

/-- The characters that a value cannot start with, and those that open a string or a
    collection. None of them opens a scalar. -/
def nonScalars : List Char := [' ', '\t', '\n', '\r', ']', '"', '[', '\x7b']

theorem readScalar_nonScalar (c : Char) (rest : List Char) (h : c ∈ nonScalars) :
    readScalar (c :: rest) = .error .malformed := by
  have hfacts : ∀ c ∈ nonScalars, c.isDigit = false ∧ c ≠ '-' ∧
      ∀ name ∈ valueNames, name.toList.head? ≠ some c := by
    simp only [nonScalars, List.forall_mem_cons, List.not_mem_nil, false_implies, implies_true]
    decide
  rcases hfacts c h with ⟨hdigit, hsign, hname⟩
  exact readScalar_eq_malformed c rest hdigit hsign hname

/-- A scalar is a value. -/
theorem readValue_of_readScalar (fuel : Nat) (cs : List Char) (found : Value × List Char)
    (h : readScalar cs = .ok found) : readValue (fuel + 1) cs = .ok found := by
  have hne : ∀ c ∈ nonScalars, ∀ rest, cs ≠ c :: rest := by
    intro c hc rest heq
    rw [heq, readScalar_nonScalar c rest hc] at h
    exact absurd h (by simp only [reduceCtorEq, not_false_eq_true])
  rw [readValue]
  · exact h
  · exact fun rest heq => hne '"' (by decide) rest heq
  · exact fun rest heq => hne '[' (by decide) rest heq
  · exact fun rest heq => hne '\x7b' (by decide) rest heq

/-- What is read as a value does not start with a blank or a bracket that closes. -/
theorem readValue_head (fuel : Nat) (cs : List Char) (found : Value × List Char)
    (h : readValue fuel cs = .ok found) :
    ∃ c rest, cs = c :: rest ∧ isSpace c = false ∧ c ≠ ']' := by
  cases fuel with
  | zero =>
      rw [readValue] at h
      exact absurd h (by simp only [reduceCtorEq, not_false_eq_true])
  | succ fuel =>
      cases cs with
      | nil =>
          rw [readValue, show readScalar [] = .error .malformed from rfl] at h
          · exact absurd h (by simp only [reduceCtorEq, not_false_eq_true])
          all_goals exact fun _ heq => List.cons_ne_nil _ _ heq.symm
      | cons c rest =>
          refine ⟨c, rest, rfl, ?_⟩
          -- Each of these characters would have been refused.
          have hbad : ∀ x ∈ [' ', '\t', '\n', '\r', ']'], c ≠ x := by
            intro x hx heq
            have hopen : ∀ x ∈ [' ', '\t', '\n', '\r', ']'],
                x ∈ nonScalars ∧ x ≠ '"' ∧ x ≠ '[' ∧ x ≠ '\x7b' := by
              simp only [List.forall_mem_cons, List.not_mem_nil, false_implies, implies_true]
              decide
            rcases hopen x hx with ⟨hmem, hquote, hbracket, hbrace⟩
            rw [heq, readValue, readScalar_nonScalar x rest hmem] at h
            · exact absurd h (by simp only [reduceCtorEq, not_false_eq_true])
            · exact fun _ heq => hquote (List.cons.inj heq).1
            · exact fun _ heq => hbracket (List.cons.inj heq).1
            · exact fun _ heq => hbrace (List.cons.inj heq).1
          refine ⟨?_, hbad ']' (by decide)⟩
          rw [isSpace, beq_eq_false_iff_ne.mpr (hbad ' ' (by decide)),
            beq_eq_false_iff_ne.mpr (hbad '\t' (by decide)),
            beq_eq_false_iff_ne.mpr (hbad '\n' (by decide)),
            beq_eq_false_iff_ne.mpr (hbad '\r' (by decide))]
          rfl

/-! ## Blanks between the parts -/

theorem skip_of_head (c : Char) (rest : List Char) (h : isSpace c = false) :
    skip (c :: rest) = c :: rest := by
  rw [skip, List.dropWhile_cons, h]
  rfl

theorem skip_newline (level : Nat) (cs : List Char) : skip (newline level ++ cs) = skip cs := by
  rw [skip, List.dropWhile_append_of_pos]
  · rfl
  · intro c hc
    rcases List.mem_cons.mp hc with h | h
    · rw [h]
      rfl
    · rw [List.eq_of_mem_replicate h]
      rfl

/-- A text that is read as a value is not shortened by skipping blanks. -/
theorem skip_of_readValue (fuel : Nat) (cs : List Char) (found : Value × List Char)
    (h : readValue fuel cs = .ok found) : skip cs = cs := by
  rcases readValue_head fuel cs found h with ⟨c, rest, heq, hspace, _⟩
  rw [heq]
  exact skip_of_head c rest hspace

theorem endsNumber_newline (level : Nat) (cs : List Char) : EndsNumber (newline level ++ cs) := by
  rw [newline, List.cons_append]
  exact endsNumber_cons '\n' _ (by decide)

theorem length_newline (level : Nat) : 1 ≤ (newline level).length := by
  rw [newline, List.length_cons]
  omega

theorem skip_reads (level : Nat) (v : Value) (h : Reads level v) (rest : List Char)
    (hrest : EndsNumber rest) : skip (writeAt level v ++ rest) = writeAt level v ++ rest :=
  skip_of_readValue _ _ _ (h _ rest hrest (Nat.lt_succ_self _))

/-! ## Collections -/

theorem readItems_last (fuel : Nat) (acc : List Value) (v : Value) (cs rest : List Char)
    (level : Nat) (h : readValue fuel cs = .ok (v, newline level ++ ']' :: rest)) :
    readItems (fuel + 1) acc cs = .ok (.list (v :: acc).reverse, rest) := by
  rw [readItems, h]
  simp only [skip_newline, skip_of_head ']' rest rfl]

theorem readItems_more (fuel : Nat) (acc : List Value) (v : Value) (cs rest : List Char)
    (h : readValue fuel cs = .ok (v, ',' :: rest)) :
    readItems (fuel + 1) acc cs = readItems fuel (v :: acc) (skip rest) := by
  rw [readItems, h]
  simp only [skip_of_head ',' rest rfl]

theorem endsNumber_writeItems (level outer : Nat) (items : List Value) (rest : List Char) :
    EndsNumber (writeItems level items ++ (newline outer ++ rest)) := by
  cases items with
  | nil => exact endsNumber_newline outer rest
  | cons v items =>
      simp only [writeItems, List.cons_append]
      exact endsNumber_cons ',' _ (by decide)

-- The induction is on the items behind the one that is read now: what is left of the text always
-- starts with an item, and the fuel is counted on its length.
theorem readItems_write (level outer : Nat) (behind : List Char) (rest : List Value) :
    ∀ (v : Value) (acc : List Value) (fuel : Nat), Reads level v →
      (∀ w ∈ rest, Reads level w) →
      (writeAt level v).length + (writeItems level rest).length + 2 ≤ fuel →
      readItems fuel acc (writeAt level v ++
        (writeItems level rest ++ (newline outer ++ ']' :: behind))) =
          .ok (.list (acc.reverse ++ v :: rest), behind) := by
  induction rest with
  | nil =>
      intro v acc fuel hv _ hfuel
      rcases Nat.exists_eq_succ_of_ne_zero (show fuel ≠ 0 by omega) with ⟨k, rfl⟩
      -- Behind the last item stands a line end, which ends a number.
      have hread := hv k _ (endsNumber_newline outer (']' :: behind)) (by omega)
      rw [writeItems, List.nil_append, readItems_last k acc _ _ behind outer hread,
        List.reverse_cons]
  | cons w rest ih =>
      intro v acc fuel hv hrest hfuel
      have hw : Reads level w := hrest w List.mem_cons_self
      have hends := endsNumber_writeItems level outer rest (']' :: behind)
      have hnext := ih w (v :: acc)
      simp only [writeItems, List.cons_append, List.append_assoc, List.length_append,
        List.length_cons] at hfuel ⊢
      have hline := length_newline level
      rcases Nat.exists_eq_succ_of_ne_zero (show fuel ≠ 0 by omega) with ⟨k, rfl⟩
      -- This item is read, and the others behind what has been read so far.
      rw [readItems_more k acc _ _ _ (hv k _ (endsNumber_cons ',' _ (by decide)) (by omega)),
        skip_newline, skip_reads level w hw _ hends,
        hnext k hw (fun x hx => hrest x (List.mem_cons_of_mem w hx)) (by omega),
        List.reverse_cons, List.append_assoc]
      rfl

/-- The next of some different keys is none of those that have been read, and is one of them
    from then on. -/
theorem next_key {κ β γ : Type} (done : List (κ × β)) (k : κ) (b : β) (rest : List (κ × γ))
    (h : (done.map Prod.fst ++ k :: rest.map Prod.fst).Nodup) :
    k ∉ done.map Prod.fst ∧ ((done ++ [(k, b)]).map Prod.fst ++ rest.map Prod.fst).Nodup := by
  refine ⟨fun hmem => (List.nodup_append.mp h).2.2 k hmem k List.mem_cons_self rfl, ?_⟩
  rw [List.map_append, List.append_assoc]
  exact h

/-- The value of a key that is not there is set behind the others. -/
theorem put_textEntries (k : String) (v : Value) (entries : List (String × Value))
    (h : k ∉ entries.map Prod.fst) :
    Value.put (.text k) v (textEntries entries) = textEntries (entries ++ [(k, v)]) := by
  induction entries with
  | nil => rfl
  | cons e entries ih =>
      rw [List.map_cons, List.mem_cons, not_or] at h
      have hne : (e.1 == k) = false := beq_eq_false_iff_ne.mpr (fun heq => h.1 heq.symm)
      -- Keys that are texts are the same only if they are equal.
      have hkey : (Value.text e.1).sameKey (.text k) = false := hne
      have hrest : Value.put (.text k) v (textEntries (e :: entries)) =
          (.text e.1, e.2) :: Value.put (.text k) v (textEntries entries) := by
        rw [textEntries, List.map_cons, Value.put, hkey]
        rfl
      rw [hrest, ih h.2]
      rfl

theorem string_append (s : String) (rest : List Char) :
    string s.toList ++ rest = '"' :: (s.toList.flatMap escaped ++ '"' :: rest) := by
  simp only [string, List.cons_append, List.append_assoc, List.nil_append]

theorem skip_string (s : String) (rest : List Char) :
    skip (string s.toList ++ rest) = string s.toList ++ rest := by
  rw [string_append]
  exact skip_of_head '"' _ rfl

theorem writeEntries_cons (level : Nat) (e : String × Value)
    (entries : List (String × Value)) :
    writeEntries level (textEntries (e :: entries)) =
      ',' :: newline level ++ string e.1.toList ++ ':' :: ' ' :: writeAt level e.2 ++
        writeEntries level (textEntries entries) := by
  rw [textEntries, List.map_cons, writeEntries]
  rfl

theorem writeAt_textEntries (level : Nat) (e : String × Value)
    (entries : List (String × Value)) :
    writeAt level (.mapping (textEntries (e :: entries))) =
      '\x7b' :: newline (level + 1) ++ string e.1.toList ++ ':' :: ' ' ::
        writeAt (level + 1) e.2 ++ writeEntries (level + 1) (textEntries entries) ++
          newline level ++ ['\x7d'] := by
  rw [textEntries, List.map_cons, writeAt]
  rfl

theorem endsNumber_writeEntries (level outer : Nat) (entries : List (String × Value))
    (rest : List Char) :
    EndsNumber (writeEntries level (textEntries entries) ++ (newline outer ++ rest)) := by
  cases entries with
  | nil => exact endsNumber_newline outer rest
  | cons e entries =>
      rw [writeEntries_cons]
      simp only [List.cons_append]
      exact endsNumber_cons ',' _ (by decide)

/-- One entry is read, with what stands behind it. -/
theorem readEntries_entry (fuel level : Nat) (acc : Value.Entries) (k : String) (v : Value)
    (rest : List Char) (hv : Reads level v) (hrest : EndsNumber rest)
    (hfuel : (writeAt level v).length < fuel) :
    readEntries (fuel + 1) acc (string k.toList ++ ':' :: ' ' :: (writeAt level v ++ rest)) =
      match skip rest with
      | ',' :: more =>
        readEntries fuel (Value.put (.text k) v acc) (skip more)
      | '\x7d' :: more => .ok (.mapping (Value.put (.text k) v acc), more)
      | _ => .error .malformed := by
  -- One blank stands behind the colon, and none at the start of the value.
  have hskip : skip (' ' :: (writeAt level v ++ rest)) = writeAt level v ++ rest := by
    have hdrop : skip (' ' :: (writeAt level v ++ rest)) = skip (writeAt level v ++ rest) := rfl
    rw [hdrop, skip_reads level v hv rest hrest]
  rw [string_append, readEntries, readString_string]
  simp only [skip_of_head ':' _ rfl, hskip, String.ofList_toList]
  rewrite [hv fuel rest hrest hfuel]
  rfl

-- As for items. Entries that have been read are kept by key, so that it matters here that no key
-- comes up twice.
theorem readEntries_write (level outer : Nat) (behind : List Char)
    (rest : List (String × Value)) :
    ∀ (k : String) (v : Value) (done : List (String × Value)) (fuel : Nat), Reads level v →
      (∀ e ∈ rest, Reads level e.2) → (done.map Prod.fst ++ k :: rest.map Prod.fst).Nodup →
      (writeAt level v).length + (writeEntries level (textEntries rest)).length + 2 ≤ fuel →
      readEntries fuel (textEntries done) (string k.toList ++ ':' :: ' ' :: (writeAt level v ++
        (writeEntries level (textEntries rest) ++ (newline outer ++ '\x7d' :: behind)))) =
          .ok (.mapping (textEntries done ++ textEntries ((k, v) :: rest)), behind) := by
  induction rest with
  | nil =>
      intro k v done fuel hv _ hkeys hfuel
      rcases next_key done k v [] hkeys with ⟨hnew, _⟩
      rcases Nat.exists_eq_succ_of_ne_zero (show fuel ≠ 0 by omega) with ⟨n, rfl⟩
      have hends := endsNumber_writeEntries level outer [] ('\x7d' :: behind)
      rw [readEntries_entry n level _ k v _ hv hends (by omega),
        put_textEntries k _ done hnew]
      simp only [show textEntries [] = [] from rfl, writeEntries, List.nil_append, skip_newline,
        skip_of_head '\x7d' behind rfl]
      rw [textEntries, List.map_append]
      rfl
  | cons e rest ih =>
      intro k v done fuel hv hrest hkeys hfuel
      rcases e with ⟨l, w⟩
      have hw : Reads level w := hrest (l, w) List.mem_cons_self
      rcases next_key done k v ((l, w) :: rest) hkeys with ⟨hnew, hkeys'⟩
      have hends := endsNumber_writeEntries level outer ((l, w) :: rest) ('\x7d' :: behind)
      have hnext := ih l w (done ++ [(k, v)])
      rcases Nat.exists_eq_succ_of_ne_zero (show fuel ≠ 0 by omega) with ⟨n, rfl⟩
      rw [readEntries_entry n level _ k v _ hv hends (by omega),
        put_textEntries k _ done hnew]
      -- The fuel for the rest is counted on the text of the entry that comes next.
      have hlen := congrArg List.length (writeEntries_cons level (l, w) rest)
      rw [writeEntries_cons level (l, w) rest]
      simp only [List.cons_append, List.append_assoc, List.length_append,
        List.length_cons] at hlen ⊢
      have hline := length_newline level
      simp only [skip_of_head ',' _ rfl, skip_newline, skip_string]
      rw [hnext n hw (fun x hx => hrest x (List.mem_cons_of_mem _ hx)) hkeys' (by omega),
        textEntries, textEntries, List.map_append, List.append_assoc]
      rfl

/-! ## Values -/

theorem readValue_named (fuel : Nat) (name : String) (rest : List Char) (v : Value)
    (h : (name, v) ∈ namedValues) :
    readValue (fuel + 1) (name.toList ++ rest) = .ok (v, rest) :=
  readValue_of_readScalar fuel _ _ (readScalar_named name rest v h)

theorem readValue_string (fuel : Nat) (s : String) (rest : List Char) :
    readValue (fuel + 1) (string s.toList ++ rest) = .ok (.text s, rest) := by
  rw [string_append, readValue, readString_string]
  simp only [String.ofList_toList]

theorem readValue_bracket (fuel : Nat) (cs : List Char) (c : Char) (rest : List Char)
    (hskip : skip cs = c :: rest) (hc : c ≠ ']') :
    readValue (fuel + 1) ('[' :: cs) = readItems fuel [] (skip cs) := by
  rw [readValue]
  split
  · rename_i heq
    rw [hskip] at heq
    exact absurd (List.cons.inj heq).1 hc
  · rfl

theorem readValue_brace (fuel : Nat) (cs : List Char) (c : Char) (rest : List Char)
    (hskip : skip cs = c :: rest) (hc : c ≠ '\x7d') :
    readValue (fuel + 1) ('\x7b' :: cs) = readEntries fuel [] (skip cs) := by
  rw [readValue]
  split
  · rename_i heq
    rw [hskip] at heq
    exact absurd (List.cons.inj heq).1 hc
  · rfl

theorem reads_list (level : Nat) (items : List Value)
    (h : ∀ v ∈ items, Reads (level + 1) v) : Reads level (.list items) := by
  refine reads_of_succ level _ fun n rest _ hfuel => ?_
  cases items with
  | nil => rfl
  | cons v items =>
      have hv : Reads (level + 1) v := h v List.mem_cons_self
      have hends := endsNumber_writeItems (level + 1) level items (']' :: rest)
      have hline := length_newline (level + 1)
      simp only [writeAt, List.cons_append, List.append_assoc, List.nil_append,
        List.length_append, List.length_cons] at hfuel ⊢
      have hskip := skip_newline (level + 1) (writeAt (level + 1) v ++
        (writeItems (level + 1) items ++ (newline level ++ ']' :: rest)))
      rw [skip_reads (level + 1) v hv _ hends] at hskip
      -- The reader looks for the bracket that closes, and finds the first item.
      rcases readValue_head _ _ _ (hv _ _ hends (Nat.lt_succ_self _)) with ⟨c, more, heq, _, hc⟩
      rw [readValue_bracket n _ c more (hskip.trans heq) hc, hskip,
        readItems_write (level + 1) level rest items v [] n hv
          (fun w hw => h w (List.mem_cons_of_mem v hw)) (by omega)]
      rfl

theorem reads_mapping (level : Nat) (entries : List (String × Value))
    (hkeys : (entries.map Prod.fst).Nodup) (h : ∀ e ∈ entries, Reads (level + 1) e.2) :
    Reads level (.mapping (textEntries entries)) := by
  refine reads_of_succ level _ fun n rest _ hfuel => ?_
  cases entries with
  | nil => rfl
  | cons e entries =>
      rcases e with ⟨k, v⟩
      have hv : Reads (level + 1) v := h (k, v) List.mem_cons_self
      have hline := length_newline (level + 1)
      rw [writeAt_textEntries] at hfuel ⊢
      simp only [List.cons_append, List.append_assoc, List.nil_append, List.length_append,
        List.length_cons] at hfuel ⊢
      have hskip := skip_newline (level + 1) (string k.toList ++ ':' :: ' ' ::
        (writeAt (level + 1) v ++ (writeEntries (level + 1) (textEntries entries) ++
          (newline level ++ '\x7d' :: rest))))
      rw [skip_string] at hskip
      -- The reader looks for the brace that closes, and finds the quote of the first key.
      rw [readValue_brace n _ '"' _ (hskip.trans (string_append k _)) (by decide), hskip]
      exact readEntries_write (level + 1) level rest entries k v [] n hv
        (fun e he => h e (List.mem_cons_of_mem _ he)) hkeys (by omega)

theorem itemsAreShort_iff (items : List Value) :
    itemsAreShort items = true ↔ ∀ v ∈ items, hasShortIntegers v = true := by
  induction items with
  | nil => simp only [itemsAreShort, List.not_mem_nil, false_implies, implies_true]
  | cons v items ih => simp only [itemsAreShort, Bool.and_eq_true, ih, List.forall_mem_cons]

theorem entriesAreShort_textEntries (entries : List (String × Value)) :
    entriesAreShort (textEntries entries) = true ↔
      ∀ e ∈ entries, hasShortIntegers e.2 = true := by
  induction entries with
  | nil => simp only [textEntries, List.map_nil, entriesAreShort, List.not_mem_nil,
      false_implies, implies_true]
  | cons e entries ih =>
      rw [textEntries, List.map_cons, entriesAreShort, Bool.and_eq_true, List.forall_mem_cons]
      exact and_congr_right fun _ => ih

/-- The text of a plain value is read. -/
theorem reads_of_plain (v : Value) (h : Plain v) (hshort : hasShortIntegers v = true) :
    ∀ level, Reads level v := by
  -- The induction is on the value; the level goes up with the collections.
  induction h with
  | null =>
      refine fun level => reads_of_succ level _ fun n rest _ _ => ?_
      exact readValue_named n "null" rest .null
        (by simp only [namedValues, List.mem_cons, true_or])
  | bool b =>
      refine fun level => reads_of_succ level _ fun n rest _ _ => ?_
      cases b with
      | false =>
          exact readValue_named n "false" rest (.bool false)
            (by simp only [namedValues, List.mem_cons, true_or, or_true])
      | true =>
          exact readValue_named n "true" rest (.bool true)
            (by simp only [namedValues, List.mem_cons, true_or, or_true])
  | int i =>
      refine fun level => reads_of_succ level _ fun n rest hrest _ => ?_
      exact readValue_of_readScalar n _ _ (readScalar_int i rest hshort hrest)
  | float x hx =>
      refine fun level => reads_of_succ level _ fun n rest hrest _ => ?_
      exact readValue_of_readScalar n _ _ (readScalar_number x hx rest hrest)
  | text s =>
      refine fun level => reads_of_succ level _ fun n rest _ _ => ?_
      exact readValue_string n s rest
  | list items _ ih =>
      intro level
      have hitems := (itemsAreShort_iff items).mp hshort
      exact reads_list level items (fun v hv => ih v hv (hitems v hv) (level + 1))
  | mapping entries hkeys _ ih =>
      intro level
      have hvalues := (entriesAreShort_textEntries entries).mp hshort
      exact reads_mapping level entries hkeys (fun e he => ih e he (hvalues e he) (level + 1))

/-- A plain value is read back from its JSON text. -/
theorem read_write (v : Value) (h : Plain v) (hshort : hasShortIntegers v = true) :
    read (write v) = .ok v := by
  have hreads := reads_of_plain v h hshort 0
  have hskip := skip_reads 0 v hreads [] endsNumber_nil
  -- The fuel that the reader starts with is enough for the text.
  have hread := hreads (2 * (writeAt 0 v).length + 2) [] endsNumber_nil (by omega)
  rw [List.append_nil] at hskip hread
  rw [read, write, hskip, hread]
  rfl

end Json

end CodeAudit
