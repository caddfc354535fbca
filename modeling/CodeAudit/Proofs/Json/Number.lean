import CodeAudit.Json.Read
import CodeAudit.Json.Write
import CodeAudit.Proofs.Digits

/-!
# JSON Numbers

That a number is read from its JSON text up to where the text ends, and no further.

A number has no closing mark: the reader goes on for as long as a character could belong to
it. So every statement here is about a number with something behind it that could not, which
`EndsNumber` says, and in a document that is a comma, a line end or nothing.

An integer is read back as the same integer, as long as it does not have more digits than
are read. Of the three forms of a floating point number it is said which decimal they are
read as. Which number that decimal is, is a question of rounding and not of the text.

## Main definitions

* `EndsNumber`: What stands behind a number does not belong to it.
* `IsNumeral`: Digits that a number may have in front.
* `ReadsAsDecimal`: A text is read as the number nearest to a decimal.

## Theorems

* `takeWhole_append`: The whole part of a number is read up to its end.
* `readScalar_int`: An integer is read back from its digits.
* `readsAsDecimal_fraction`, `readsAsDecimal_exponent`, `readsAsDecimal_scientific`: The
  three forms of a floating point number are read.
-/

namespace CodeAudit

namespace Json

/-- What stands behind a number does not belong to it. -/
def EndsNumber (rest : List Char) : Prop :=
  ∀ c ∈ rest.head?, c.isDigit = false ∧ c ≠ '.' ∧ c ≠ 'e' ∧ c ≠ 'E'

theorem endsNumber_nil : EndsNumber [] := by
  intro c hc
  rw [List.head?_nil] at hc
  exact absurd hc (by simp only [Option.mem_def, reduceCtorEq, not_false_eq_true])

theorem endsNumber_cons (c : Char) (rest : List Char)
    (h : c.isDigit = false ∧ c ≠ '.' ∧ c ≠ 'e' ∧ c ≠ 'E') : EndsNumber (c :: rest) := by
  intro x hx
  rw [List.head?_cons, Option.mem_def, Option.some.injEq] at hx
  rw [← hx]
  exact h

theorem head_not_digit (c : Char) (rest : List Char) (h : c.isDigit = false) :
    ∀ x ∈ (c :: rest).head?, x.isDigit = false := by
  intro x hx
  rw [List.head?_cons, Option.mem_def, Option.some.injEq] at hx
  rw [← hx]
  exact h

theorem spanDigits_append (ds rest : List Char) (hds : ∀ c ∈ ds, c.isDigit = true)
    (hrest : ∀ c ∈ rest.head?, c.isDigit = false) : spanDigits (ds ++ rest) = (ds, rest) := by
  -- Nothing of the rest belongs to the digits.
  have hnone : rest.takeWhile Char.isDigit = [] ∧ rest.dropWhile Char.isDigit = rest := by
    cases rest with
    | nil => exact ⟨rfl, rfl⟩
    | cons c rest =>
        have hc : c.isDigit = false := hrest c rfl
        exact ⟨by rw [List.takeWhile_cons, hc]; rfl, by rw [List.dropWhile_cons, hc]; rfl⟩
  rw [spanDigits, List.takeWhile_append_of_pos hds, List.dropWhile_append_of_pos hds, hnone.1,
    hnone.2, List.append_nil]

theorem takeFraction_of_endsNumber (rest : List Char) (h : EndsNumber rest) :
    takeFraction rest = none := by
  cases rest with
  | nil => rfl
  | cons c rest =>
      have hc : c ≠ '.' := (h c rfl).2.1
      rw [takeFraction]
      exact fun _ heq => hc (List.cons.inj heq).1

theorem takeExponent_of_endsNumber (rest : List Char) (h : EndsNumber rest) :
    takeExponent rest = none := by
  cases rest with
  | nil => rfl
  | cons c rest =>
      have hc := (h c rfl).2.2
      rw [takeExponent, if_neg]
      simp only [Bool.or_eq_true, beq_iff_eq, not_or]
      exact hc

/-- Digits that a number may have in front: a zero alone, or digits that start with another
    one. -/
def IsNumeral (ds : List Char) : Prop :=
  (∀ c ∈ ds, c.isDigit = true) ∧ (ds = ['0'] ∨ ∃ d rest, ds = d :: rest ∧ d ≠ '0')

theorem isNumeral_toDigits (n : Nat) : IsNumeral (Nat.toDigits 10 n) := by
  refine ⟨isDigit_of_mem_toDigits n, ?_⟩
  by_cases hn : n = 0
  · rw [hn]
    exact Or.inl (Nat.toDigits_zero 10)
  · exact Or.inr (toDigits_head_ne_zero n (by omega))

theorem takeWhole_append (ds rest : List Char) (hds : IsNumeral ds)
    (hrest : ∀ c ∈ rest.head?, c.isDigit = false) :
    takeWhole (ds ++ rest) = some (ds, rest) := by
  rcases hds with ⟨hdigit, hzero | ⟨d, more, heq, hd⟩⟩
  · rw [hzero]
    rfl
  · have hspan := spanDigits_append ds rest hdigit hrest
    rw [heq, List.cons_append] at hspan ⊢
    rw [takeWhole]
    · rw [hspan]
    · exact fun _ h => hd (List.cons.inj h).1

theorem takeFraction_append (ds rest : List Char) (hne : ds ≠ [])
    (hds : ∀ c ∈ ds, c.isDigit = true) (hrest : ∀ c ∈ rest.head?, c.isDigit = false) :
    takeFraction ('.' :: (ds ++ rest)) = some (ds, rest) := by
  rw [takeFraction, spanDigits_append ds rest hds hrest]
  cases ds with
  | nil => exact absurd rfl hne
  | cons d ds => rfl

/-- The exponent that a sign and digits stand for. -/
def exponentOf (sign : Char) (ds : List Char) : Int :=
  signed (sign == '-') (decimalNat ds)

theorem takeExponent_append (sign : Char) (ds rest : List Char) (hsign : sign = '+' ∨ sign = '-')
    (hne : ds ≠ []) (hds : ∀ c ∈ ds, c.isDigit = true)
    (hrest : ∀ c ∈ rest.head?, c.isDigit = false) :
    takeExponent ('e' :: sign :: (ds ++ rest)) = some (exponentOf sign ds, rest) := by
  have hspan := spanDigits_append ds rest hds hrest
  rw [takeExponent, if_pos (by rfl)]
  cases ds with
  | nil => exact absurd rfl hne
  | cons d ds =>
      rcases hsign with hs | hs
      · simp only [hs, takeSign, hspan, exponentOf]
        rfl
      · simp only [hs, takeSign, hspan, exponentOf]
        rfl

/-! ## Integers -/

theorem readNumber_int (negative : Bool) (ds rest : List Char) (hds : IsNumeral ds)
    (hlen : ds.length ≤ digitLimit) (hrest : EndsNumber rest) :
    readNumber negative (ds ++ rest) =
      some (.ok (.int (signed negative (decimalNat ds))), rest) := by
  rw [readNumber, takeWhole_append ds rest hds (fun c hc => (hrest c hc).1)]
  -- Neither a fraction nor an exponent follows, so the number is an integer.
  simp only [takeFraction_of_endsNumber rest hrest, takeExponent_of_endsNumber rest hrest,
    Bool.or_self, Bool.false_eq_true, if_false]
  rw [if_neg (by omega)]

theorem dropName_of_head_ne (name : String) (x c : Char) (xs rest : List Char)
    (hname : name.toList = x :: xs) (h : x ≠ c) : dropName name (c :: rest) = none := by
  have hx : (x == c) = false := beq_eq_false_iff_ne.mpr h
  rw [dropName, hname, List.isPrefixOf_cons_cons, hx, Bool.false_and, if_neg (by decide)]

theorem dropName_append (name : String) (rest : List Char) :
    dropName name (name.toList ++ rest) = some rest := by
  have hprefix : name.toList.isPrefixOf (name.toList ++ rest) = true :=
    List.isPrefixOf_iff_prefix.mpr (List.prefix_append _ _)
  rw [dropName, if_pos hprefix, ← String.length_toList, List.drop_left]

theorem ne_of_isDigit (x d : Char) (hd : d.isDigit = true) (hx : x.isDigit = false) : x ≠ d := by
  intro h
  rw [h, hd] at hx
  exact Bool.noConfusion hx

/-- The values that have names, and the names. -/
def namedValues : List (String × Value) :=
  [("null", .null), ("true", .bool true), ("false", .bool false), ("NaN", .float .nan),
   ("Infinity", .float (.infinite false)), ("-Infinity", .float (.infinite true))]

/-- The names of values that are no collections, strings or numbers with digits. -/
def valueNames : List String := ["null", "true", "false", "NaN", "Infinity", "-Infinity"]

/-- A text that none of the names starts is not read as a name. -/
theorem readName_of_dropName (cs : List Char)
    (h : ∀ name ∈ valueNames, dropName name cs = none) : readName cs = none := by
  simp only [readName, List.findSome?_cons, List.findSome?_nil, h "null" (by decide),
    h "true" (by decide), h "false" (by decide), h "NaN" (by decide), h "Infinity" (by decide),
    h "-Infinity" (by decide), Option.map_none]

/-- No two of the names start alike, so that one name is not taken for another. -/
theorem dropName_of_ne (a b : String) (rest : List Char) (ha : a ∈ valueNames)
    (hb : b ∈ valueNames) (hne : a ≠ b) : dropName a (b.toList ++ rest) = none := by
  have hheads : ∀ a ∈ valueNames, ∀ b ∈ valueNames, a ≠ b →
      ∃ x xs y ys, a.toList = x :: xs ∧ b.toList = y :: ys ∧ x ≠ y := by
    intro a ha b hb hab
    -- There are few names, and their first letters are compared one by one.
    have hhead : ∀ a ∈ valueNames, ∀ b ∈ valueNames, a ≠ b →
        a.toList.headD 'x' ≠ b.toList.headD 'x' ∧ a.toList ≠ [] ∧ b.toList ≠ [] := by decide
    rcases hhead a ha b hb hab with ⟨hfirst, hane, hbne⟩
    rcases List.exists_cons_of_ne_nil hane with ⟨x, xs, hx⟩
    rcases List.exists_cons_of_ne_nil hbne with ⟨y, ys, hy⟩
    rw [hx, hy] at hfirst
    exact ⟨x, xs, y, ys, hx, hy, hfirst⟩
  rcases hheads a ha b hb hne with ⟨x, xs, y, ys, hx, hy, hxy⟩
  rw [hy]
  exact dropName_of_head_ne a x y xs _ hx hxy

/-- A name is found in a table of names, in which it stands once. -/
theorem findSome?_dropName (table : List (String × Value)) (name : String) (v : Value)
    (rest : List Char) (h : (name, v) ∈ table) (hnames : ∀ p ∈ table, p.1 ∈ valueNames)
    (hkeys : (table.map Prod.fst).Nodup) :
    (table.findSome? fun p => (dropName p.1 (name.toList ++ rest)).map fun rest => (p.2, rest)) =
      some (v, rest) := by
  induction table with
  | nil => exact absurd h List.not_mem_nil
  | cons p table ih =>
      rw [List.forall_mem_cons] at hnames
      rw [List.map_cons, List.nodup_cons] at hkeys
      rw [List.findSome?_cons]
      rcases List.mem_cons.mp h with heq | hmem
      · rw [← heq, dropName_append]
        rfl
      · -- The name stands further behind, and an earlier one is not taken for it.
        have hkey : name ∈ table.map Prod.fst := List.mem_map_of_mem hmem
        have hne : p.1 ≠ name := fun heq => hkeys.1 (heq ▸ hkey)
        rw [dropName_of_ne p.1 name rest hnames.1 (hnames.2 (name, v) hmem) hne]
        exact ih hmem hnames.2 hkeys.2

theorem readName_append (name : String) (rest : List Char) (v : Value)
    (h : (name, v) ∈ namedValues) : readName (name.toList ++ rest) = some (v, rest) := by
  have hmap : namedValues.map Prod.fst = valueNames := rfl
  refine findSome?_dropName namedValues name v rest h (fun p hp => ?_) (by rw [hmap]; decide)
  exact hmap ▸ List.mem_map_of_mem hp

/-- No name starts with a digit. -/
theorem readName_digit (d : Char) (rest : List Char) (hd : d.isDigit = true) :
    readName (d :: rest) = none := by
  refine readName_of_dropName _ (fun name hname => ?_)
  simp only [valueNames, List.mem_cons, List.not_mem_nil, or_false] at hname
  rcases hname with h | h | h | h | h | h
  all_goals subst h; exact dropName_of_head_ne _ _ d _ rest rfl (ne_of_isDigit _ d hd (by decide))

/-- No name has a digit behind a minus. -/
theorem readName_minus_digit (d : Char) (rest : List Char) (hd : d.isDigit = true) :
    readName ('-' :: d :: rest) = none := by
  -- The one name with a minus in front has a letter behind it.
  have hI : ('I' == d) = false := beq_eq_false_iff_ne.mpr (ne_of_isDigit 'I' d hd (by decide))
  refine readName_of_dropName _ (fun name hname => ?_)
  simp only [valueNames, List.mem_cons, List.not_mem_nil, or_false] at hname
  rcases hname with h | h | h | h | h | h
  case inr.inr.inr.inr.inr =>
    rw [h, dropName, show "-Infinity".toList = '-' :: 'I' :: "nfinity".toList from rfl,
      List.isPrefixOf_cons_cons, List.isPrefixOf_cons_cons, hI, Bool.false_and, Bool.and_false,
      if_neg (by decide)]
  all_goals subst h; exact dropName_of_head_ne _ _ '-' _ _ rfl (by decide)

theorem readScalar_digit (d : Char) (rest : List Char) (hd : d.isDigit = true)
    (v : Value) (behind : List Char)
    (h : readNumber false (d :: rest) = some (.ok v, behind)) :
    readScalar (d :: rest) = .ok (v, behind) := by
  have hne : d ≠ '-' := fun heq => absurd hd (by rw [heq]; decide)
  rw [readScalar, readName_digit d rest hd]
  · simp only [h]
  · exact fun _ heq => hne (List.cons.inj heq).1

theorem readScalar_minus_digit (d : Char) (rest : List Char) (hd : d.isDigit = true)
    (v : Value) (behind : List Char)
    (h : readNumber true (d :: rest) = some (.ok v, behind)) :
    readScalar ('-' :: d :: rest) = .ok (v, behind) := by
  rw [readScalar, readName_minus_digit d rest hd]
  simp only [h]

/-- An integer is read back from its digits, unless it has more of them than are read. -/
theorem readScalar_int (i : Int) (rest : List Char) (hshort : isShort i = true)
    (hrest : EndsNumber rest) :
    readScalar ((toString i).toList ++ rest) = .ok (.int i, rest) := by
  have hlen : (Nat.toDigits 10 i.natAbs).length ≤ digitLimit := of_decide_eq_true hshort
  have hnum := isNumeral_toDigits i.natAbs
  -- With either sign the digits are read, and the sign decides which of the two it is.
  have hread := fun negative => readNumber_int negative _ rest hnum hlen hrest
  simp only [decimalNat_toDigits] at hread
  rw [toString_int_toList]
  rcases List.exists_cons_of_ne_nil (Nat.toDigits_ne_nil (n := i.natAbs) (b := 10)) with
    ⟨d, ds, hds⟩
  have hd : d.isDigit = true := hnum.1 d (by rw [hds]; exact List.mem_cons_self)
  rw [hds, List.cons_append] at hread
  by_cases hsign : 0 ≤ i
  · rw [if_pos hsign, hds, List.cons_append]
    have hi : signed false i.natAbs = i := by
      simp only [signed, Bool.false_eq_true, if_false, Int.ofNat_eq_natCast]
      omega
    exact readScalar_digit d _ hd _ rest (hi ▸ hread false)
  · rw [if_neg hsign, hds, List.cons_append, List.cons_append]
    have hi : signed true i.natAbs = i := by
      simp only [signed, if_true, Int.ofNat_eq_natCast]
      omega
    exact readScalar_minus_digit d _ hd _ rest (hi ▸ hread true)

/-! ## Floating point numbers -/

/-- A text behind a sign is read as the number nearest to a decimal, whatever stands behind
    it. -/
def ReadsAsDecimal (text : List Char) (digits : Nat) (e : Int) : Prop :=
  ∀ negative rest, EndsNumber rest →
    readNumber negative (text ++ rest) =
      some (.ok (.float (.ofDecimal negative digits e)), rest)

theorem readsAsDecimal_fraction (whole fraction : List Char) (hw : IsNumeral whole)
    (hne : fraction ≠ []) (hf : ∀ c ∈ fraction, c.isDigit = true) :
    ReadsAsDecimal (whole ++ '.' :: fraction) (decimalNat (whole ++ fraction))
      (0 - fraction.length) := by
  intro negative rest hrest
  rw [List.append_assoc, List.cons_append, readNumber,
    takeWhole_append whole _ hw (head_not_digit '.' _ rfl)]
  simp only [takeFraction_append fraction rest hne hf (fun c hc => (hrest c hc).1),
    takeExponent_of_endsNumber rest hrest, Bool.or_false, if_true]

/-- The mark of an exponent is no digit and no point. -/
theorem takeFraction_exponent (cs : List Char) : takeFraction ('e' :: cs) = none := rfl

theorem readsAsDecimal_exponent (whole ds : List Char) (sign : Char) (hw : IsNumeral whole)
    (hsign : sign = '+' ∨ sign = '-') (hne : ds ≠ []) (hds : ∀ c ∈ ds, c.isDigit = true) :
    ReadsAsDecimal (whole ++ 'e' :: sign :: ds) (decimalNat whole) (exponentOf sign ds) := by
  intro negative rest hrest
  rw [List.append_assoc, List.cons_append, List.cons_append, readNumber,
    takeWhole_append whole _ hw (head_not_digit 'e' _ rfl)]
  simp only [takeFraction_exponent,
    takeExponent_append sign ds rest hsign hne hds (fun c hc => (hrest c hc).1), Bool.or_true,
    if_true, List.length_nil, List.append_nil, Int.ofNat_zero, Int.sub_zero]

theorem readsAsDecimal_scientific (whole fraction ds : List Char) (sign : Char)
    (hw : IsNumeral whole) (hfne : fraction ≠ []) (hf : ∀ c ∈ fraction, c.isDigit = true)
    (hsign : sign = '+' ∨ sign = '-') (hne : ds ≠ []) (hds : ∀ c ∈ ds, c.isDigit = true) :
    ReadsAsDecimal (whole ++ '.' :: (fraction ++ 'e' :: sign :: ds))
      (decimalNat (whole ++ fraction)) (exponentOf sign ds - fraction.length) := by
  intro negative rest hrest
  rw [List.append_assoc, List.cons_append, List.append_assoc, List.cons_append,
    List.cons_append, readNumber, takeWhole_append whole _ hw (head_not_digit '.' _ rfl)]
  simp only [takeFraction_append fraction _ hfne hf (head_not_digit 'e' _ rfl),
    takeExponent_append sign ds rest hsign hne hds (fun c hc => (hrest c hc).1), Bool.or_self,
    if_true]

/-- A text that is read as a decimal is so with a minus in front of it. -/
theorem readScalar_decimal (negative : Bool) (text : List Char) (digits : Nat) (e : Int)
    (h : ReadsAsDecimal text digits e) (hhead : ∃ d more, text = d :: more ∧ d.isDigit = true)
    (rest : List Char) (hrest : EndsNumber rest) :
    readScalar ((if negative then ['-'] else []) ++ text ++ rest) =
      .ok (.float (.ofDecimal negative digits e), rest) := by
  rcases hhead with ⟨d, more, htext, hd⟩
  have hread := h negative rest hrest
  -- The sign is read before the number is, and only if there is one.
  rw [htext, List.cons_append] at hread
  cases negative with
  | false =>
      rw [htext]
      exact readScalar_digit d _ hd _ rest hread
  | true =>
      rw [htext]
      exact readScalar_minus_digit d _ hd _ rest hread

end Json

end CodeAudit
