import CodeAudit.Text.Utf8
import Mathlib.Algebra.GroupWithZero.Nat
import Mathlib.Data.List.Basic

/-!
# Reading UTF-8

That a text is read back from its bytes, and that line feeds come through whatever stands around
them.

The machine reads one byte at a time, so all that there is to know about it is what one byte gives,
which is `step`. A byte string gives what its bytes give one after the other, and one more invalid
piece if it ends inside a character.

A line feed is never owed. Inside a character the machine waits for bytes above ASCII only, so a
line feed ends the character as an invalid piece and is then a character of its own; and no other
byte can become one, since a character that takes more than one byte has a code point above ASCII.
Both rest on the bounds that the machine keeps while it is inside a character. `Pending.IsLong`
says what they come to, and every step keeps it.

## Main definitions

* `Utf8.step`: What a byte gives, and where the machine stands behind it.
* `Utf8.Pending.IsLong`: A character that is being read is above ASCII.

## Theorems

* `Utf8.piecesFrom_cons`: A byte string gives what its bytes give.
* `Utf8.isLong_step`: A character that is being read stays above ASCII.
* `Utf8.count_step`: A byte gives a line feed exactly if it is one.
* `Utf8.pieces_encode`: A text is read back from its bytes.
* `Utf8.decodeTolerant_eq_nil_iff`: Only from no bytes nothing is read.
* `Utf8.decodeTolerant_lineFeed`: A line feed comes through, and parts a text.
* `Utf8.count_decodeTolerant`: A text has as many line feeds as its bytes.
-/

namespace CodeAudit

namespace Utf8

/-! ## Steps -/

/-- What a byte gives between two characters, and where the machine stands behind it. -/
def first (b : UInt8) : List Piece × Option Pending :=
  match start b with
  | .inl piece => ([piece], none)
  | .inr p => ([], some p)

/-- What a byte gives, and where the machine stands behind it. -/
def step : Option Pending → UInt8 → List Piece × Option Pending
  | none, b => first b
  | some p, b =>
    if p.low ≤ b && b ≤ p.high then
      if p.owed ≤ 1 then ([.char (Char.ofNat (p.value * 64 + (b.toNat - 0x80)))], none)
      else ([], some ⟨p.owed - 1, p.value * 64 + (b.toNat - 0x80), 0x80, 0xBF⟩)
    else (.invalid :: (first b).1, (first b).2)

/-- What the end of a byte string gives: a character that is being read is invalid. -/
def flush : Option Pending → List Piece
  | none => []
  | some _ => [.invalid]

theorem piecesFrom_nil (found : List Piece) (p : Option Pending) :
    piecesFrom found p [] = found.reverse ++ flush p := by
  cases p with
  | none => rw [piecesFrom, flush, List.append_nil]
  | some p => rw [piecesFrom, flush, List.reverse_cons]

theorem piecesFrom_step (found : List Piece) (p : Option Pending) (b : UInt8) (rest : List UInt8) :
    piecesFrom found p (b :: rest) =
      piecesFrom ((step p b).1.reverse ++ found) (step p b).2 rest := by
  cases p with
  | none =>
      rw [piecesFrom, step, first]
      cases start b with
      | inl piece => rfl
      | inr p => rfl
  | some p =>
      rw [piecesFrom, step]
      split
      · dsimp only
        split
        · rfl
        · rfl
      -- The byte does not go on with the character, which is invalid, and is looked at again.
      · rw [first]
        cases start b with
        | inl piece => rfl
        | inr p => rfl

theorem piecesFrom_found (bs : List UInt8) :
    ∀ found p, piecesFrom found p bs = found.reverse ++ piecesFrom [] p bs := by
  induction bs with
  | nil =>
      intro found p
      rw [piecesFrom_nil, piecesFrom_nil]
      rfl
  | cons b rest ih =>
      intro found p
      rw [piecesFrom_step, piecesFrom_step [], ih, ih ((step p b).1.reverse ++ [])]
      simp only [List.append_nil, List.reverse_append, List.reverse_reverse, List.append_assoc]

/-- A byte string gives what its first byte gives, and then what the others give. -/
theorem piecesFrom_cons (p : Option Pending) (b : UInt8) (rest : List UInt8) :
    piecesFrom [] p (b :: rest) = (step p b).1 ++ piecesFrom [] (step p b).2 rest := by
  rw [piecesFrom_step, piecesFrom_found, List.append_nil, List.reverse_reverse]

/-- A byte that gives nothing leaves a character that is being read. -/
theorem isSome_of_step (p : Option Pending) (b : UInt8) (h : (step p b).1 = []) :
    (step p b).2.isSome = true := by
  -- What starts between two characters gives a piece or opens a character, never nothing.
  have hfirst : (first b).1 = [] → (first b).2.isSome = true := by
    intro h
    rw [first] at h ⊢
    cases hstart : start b with
    | inl piece =>
        rw [hstart] at h
        exact absurd h (List.cons_ne_nil _ _)
    | inr q => rfl
  cases p with
  | none => exact hfirst h
  | some p =>
      rw [step] at h ⊢
      by_cases hb : (p.low ≤ b && b ≤ p.high) = true
      · rw [if_pos hb] at h ⊢
        by_cases howed : p.owed ≤ 1
        · rw [if_pos howed] at h
          exact absurd h (List.cons_ne_nil _ _)
        · rw [if_neg howed]
          rfl
      · rw [if_neg hb] at h
        exact absurd h (List.cons_ne_nil _ _)

/-- Something is read from bytes, or from a character that they do not complete. -/
theorem piecesFrom_ne_nil (bs : List UInt8) :
    ∀ p : Option Pending, p.isSome = true ∨ bs ≠ [] → piecesFrom [] p bs ≠ [] := by
  induction bs with
  | nil =>
      intro p h
      cases p with
      | none => exact absurd rfl (h.resolve_left Bool.false_ne_true)
      -- A character is pending at the end. It gives a piece that says it is invalid.
      | some p => exact List.cons_ne_nil _ _
  | cons b rest ih =>
      intro p _ hnil
      -- The first byte gave nothing, and so left a character pending for the bytes behind it.
      rw [piecesFrom_cons, List.append_eq_nil_iff] at hnil
      exact ih (step p b).2 (Or.inl (isSome_of_step p b hnil.1)) hnil.2

/-! ## Characters that are being read -/

/-- A byte opens a character of two, three or four bytes. The second byte is bound more closely
    behind four of the first bytes. -/
inductive Opens (b : UInt8) : Pending → Prop
  | two (h : 0xC2 ≤ b.toNat ∧ b.toNat < 0xE0) : Opens b ⟨1, b.toNat - 0xC0, 0x80, 0xBF⟩
  | three (low high : UInt8) (h : 0xE0 ≤ b.toNat ∧ b.toNat < 0xF0)
      (hlow : low.toNat = if b.toNat = 0xE0 then 0xA0 else 0x80)
      (hhigh : high.toNat = if b.toNat = 0xED then 0x9F else 0xBF) :
      Opens b ⟨2, b.toNat - 0xE0, low, high⟩
  | four (low high : UInt8) (h : 0xF0 ≤ b.toNat ∧ b.toNat < 0xF5)
      (hlow : low.toNat = if b.toNat = 0xF0 then 0x90 else 0x80)
      (hhigh : high.toNat = if b.toNat = 0xF4 then 0x8F else 0xBF) :
      Opens b ⟨3, b.toNat - 0xF0, low, high⟩

theorem toNat_ite (b x y z : UInt8) :
    (if b == x then y else z).toNat = if b.toNat = x.toNat then y.toNat else z.toNat := by
  by_cases h : b = x
  · rw [if_pos (beq_iff_eq.mpr h), if_pos (congrArg _ h)]
  · rw [if_neg fun heq => h (beq_iff_eq.mp heq), if_neg fun heq => h (UInt8.toNat_inj.mp heq)]

/-- Between two characters a byte is ASCII, invalid, or opens a character. -/
theorem cases_of_start (b : UInt8) :
    b.toNat < 0x80 ∧ start b = .inl (.char (Char.ofNat b.toNat)) ∨
    (0x80 ≤ b.toNat ∧ b.toNat < 0xC2 ∨ 0xF5 ≤ b.toNat) ∧ start b = .inl .invalid ∨
    ∃ p, start b = .inr p ∧ Opens b p := by
  have hlt : ∀ x : UInt8, b < x ↔ b.toNat < x.toNat := fun _ => UInt8.lt_iff_toNat_lt
  unfold start
  by_cases hascii : b.toNat < 0x80
  · rw [if_pos ((hlt 0x80).mpr hascii)]
    exact Or.inl ⟨hascii, rfl⟩
  rw [if_neg fun h => hascii ((hlt 0x80).mp h)]
  by_cases htail : b.toNat < 0xC2
  · rw [if_pos ((hlt 0xC2).mpr htail)]
    exact Or.inr (Or.inl ⟨Or.inl ⟨Nat.le_of_not_lt hascii, htail⟩, rfl⟩)
  rw [if_neg fun h => htail ((hlt 0xC2).mp h)]
  by_cases htwo : b.toNat < 0xE0
  · rw [if_pos ((hlt 0xE0).mpr htwo)]
    exact Or.inr (Or.inr ⟨_, rfl, .two ⟨Nat.le_of_not_lt htail, htwo⟩⟩)
  rw [if_neg fun h => htwo ((hlt 0xE0).mp h)]
  by_cases hthree : b.toNat < 0xF0
  · rw [if_pos ((hlt 0xF0).mpr hthree)]
    refine Or.inr (Or.inr ⟨_, rfl, .three _ _ ⟨Nat.le_of_not_lt htwo, hthree⟩ ?_ ?_⟩)
    · exact toNat_ite b 0xE0 0xA0 0x80
    · exact toNat_ite b 0xED 0x9F 0xBF
  rw [if_neg fun h => hthree ((hlt 0xF0).mp h)]
  by_cases hfour : b.toNat < 0xF5
  · rw [if_pos ((hlt 0xF5).mpr hfour)]
    refine Or.inr (Or.inr ⟨_, rfl, .four _ _ ⟨Nat.le_of_not_lt hthree, hfour⟩ ?_ ?_⟩)
    · exact toNat_ite b 0xF0 0x90 0x80
    · exact toNat_ite b 0xF4 0x8F 0xBF
  rw [if_neg fun h => hfour ((hlt 0xF5).mp h)]
  exact Or.inr (Or.inl ⟨Or.inr (Nat.le_of_not_lt hfour), rfl⟩)

/-- A character that is being read is above ASCII: so is the next byte, and so is the code point
    that the least bytes would give. -/
structure Pending.IsLong (p : Pending) : Prop where
  low : 0x80 ≤ p.low.toNat
  value : 0x80 ≤ (p.value * 64 + (p.low.toNat - 0x80)) * 64 ^ (p.owed - 1)

theorem Opens.isLong {b : UInt8} {p : Pending} (h : Opens b p) : p.IsLong := by
  cases h with
  -- Two bytes have no closer bound: the least first byte already makes the value large enough.
  | two h => exact ⟨Nat.le_refl 0x80, by simp only [UInt8.reduceToNat]; omega⟩
  | three low high h hlow hhigh =>
      constructor
      · dsimp only
        split at hlow <;> omega
      · dsimp only
        split at hlow <;> omega
  | four low high h hlow hhigh =>
      constructor
      · dsimp only
        split at hlow <;> omega
      · dsimp only
        split at hlow <;> omega

theorem isLong_first (b : UInt8) : ∀ q ∈ (first b).2, q.IsLong := by
  intro q hq
  rw [first] at hq
  rcases cases_of_start b with ⟨_, heq⟩ | ⟨_, heq⟩ | ⟨p, heq, hopens⟩
  · rw [heq] at hq
    cases hq
  · rw [heq] at hq
    cases hq
  · rw [heq] at hq
    rw [← Option.some.inj hq]
    exact hopens.isLong

/-- The bytes so far and a byte within the bounds make at least what the least byte would. -/
theorem Pending.IsLong.le_value {p : Pending} (h : p.IsLong) (b : UInt8)
    (hb : (p.low ≤ b && b ≤ p.high) = true) :
    0x80 ≤ b.toNat ∧ 0x80 ≤ (p.value * 64 + (b.toNat - 0x80)) * 64 ^ (p.owed - 1) := by
  rw [Bool.and_eq_true, decide_eq_true_iff, UInt8.le_iff_toNat_le] at hb
  have hlow := h.low
  exact ⟨by omega, Nat.le_trans h.value (Nat.mul_le_mul_right _ (by omega))⟩

/-- A character stays above ASCII while it is being read. -/
theorem isLong_step (p : Option Pending) (b : UInt8) (hp : ∀ q ∈ p, q.IsLong) :
    ∀ q ∈ (step p b).2, q.IsLong := by
  cases p with
  | none => exact isLong_first b
  | some p =>
      intro q hq
      rw [step] at hq
      by_cases hb : (p.low ≤ b && b ≤ p.high) = true
      · rw [if_pos hb] at hq
        by_cases howed : p.owed ≤ 1
        · rw [if_pos howed] at hq
          cases hq
        · rw [if_neg howed] at hq
          rw [← Option.some.inj hq]
          -- With one byte less to come there is one power of 64 less to make good.
          have hpow : 64 ^ (p.owed - 1) = 64 * 64 ^ (p.owed - 1 - 1) := by
            rw [← Nat.pow_succ', Nat.succ_eq_add_one, Nat.sub_add_cancel (by omega)]
          have hvalue := ((hp p rfl).le_value b hb).2
          rw [hpow, ← Nat.mul_assoc] at hvalue
          have hleast : (0x80 : UInt8).toNat - 0x80 = 0 := rfl
          refine ⟨Nat.le_refl 0x80, ?_⟩
          dsimp only
          rw [hleast, Nat.add_zero]
          exact hvalue
      · rw [if_neg hb] at hq
        exact isLong_first b q hq

/-! ## Bytes of characters -/

theorem toNat_byte (n : Nat) (h : n < 256) : (UInt8.ofNat n).toNat = n :=
  UInt8.toNat_ofNat_of_lt' h

theorem pieces_ascii (v : Nat) (rest : List UInt8) (h : v < 0x80) :
    pieces (UInt8.ofNat v :: rest) = .char (Char.ofNat v) :: pieces rest := by
  have hbyte := toNat_byte v (by omega)
  rw [pieces, piecesFrom_cons, step, first]
  -- A byte below 0x80 is none of the others.
  rcases cases_of_start (UInt8.ofNat v) with ⟨_, heq⟩ | ⟨hout, _⟩ | ⟨p, _, hopens⟩
  · rw [heq, hbyte]
    rfl
  · omega
  · cases hopens <;> omega

theorem exists_pieces_opens (n : Nat) (rest : List UInt8) (hn : 0xC2 ≤ n ∧ n < 0xF5) :
    ∃ p, Opens (UInt8.ofNat n) p ∧
      pieces (UInt8.ofNat n :: rest) = piecesFrom [] (some p) rest := by
  have hbyte := toNat_byte n (by omega)
  rcases cases_of_start (UInt8.ofNat n) with ⟨hlt, _⟩ | ⟨hout, _⟩ | ⟨p, heq, hopens⟩
  · omega
  · omega
  · refine ⟨p, hopens, ?_⟩
    rw [pieces, piecesFrom_cons, step, first, heq]
    rfl

/-- A byte within the bounds completes a character, or is one more of it. -/
theorem piecesFrom_tail (p : Pending) (n : Nat) (rest : List UInt8) (hn : n < 256)
    (hbounds : p.low.toNat ≤ n ∧ n ≤ p.high.toNat) :
    piecesFrom [] (some p) (UInt8.ofNat n :: rest) =
      if p.owed ≤ 1 then .char (Char.ofNat (p.value * 64 + (n - 0x80))) :: pieces rest
      else piecesFrom [] (some ⟨p.owed - 1, p.value * 64 + (n - 0x80), 0x80, 0xBF⟩) rest := by
  have hbyte := toNat_byte n hn
  have hin : (p.low ≤ UInt8.ofNat n && UInt8.ofNat n ≤ p.high) = true := by
    rw [Bool.and_eq_true, decide_eq_true_iff, decide_eq_true_iff, UInt8.le_iff_toNat_le,
      UInt8.le_iff_toNat_le, hbyte]
    exact hbounds
  rw [piecesFrom_cons, step, if_pos hin, hbyte]
  split
  · rfl
  · rfl

/-- Behind the second byte of a character any six bits can follow. -/
theorem piecesFrom_last (value v : Nat) (rest : List UInt8) (h : value = v / 64) :
    piecesFrom [] (some ⟨1, value, 0x80, 0xBF⟩) (UInt8.ofNat (v % 64 + 128) :: rest) =
      .char (Char.ofNat v) :: pieces rest := by
  have hlow : (0x80 : UInt8).toNat = 128 := rfl
  have hhigh : (0xBF : UInt8).toNat = 191 := rfl
  have hvalue : value * 64 + (v % 64 + 128 - 0x80) = v := by omega
  rw [piecesFrom_tail _ _ _ (by omega) (by dsimp only; omega), if_pos (Nat.le_refl 1)]
  dsimp only
  rw [hvalue]

theorem piecesFrom_middle (value v : Nat) (rest : List UInt8) (h : value = v / 64) :
    piecesFrom [] (some ⟨2, value, 0x80, 0xBF⟩) (UInt8.ofNat (v % 64 + 128) :: rest) =
      piecesFrom [] (some ⟨1, v, 0x80, 0xBF⟩) rest := by
  have hlow : (0x80 : UInt8).toNat = 128 := rfl
  have hhigh : (0xBF : UInt8).toNat = 191 := rfl
  have hvalue : value * 64 + (v % 64 + 128 - 0x80) = v := by omega
  rw [piecesFrom_tail _ _ _ (by omega) (by dsimp only; omega), if_neg (by dsimp only; omega)]
  dsimp only
  rw [hvalue]

theorem pieces_two (v : Nat) (rest : List UInt8) (h : 0x80 ≤ v ∧ v < 0x800) :
    pieces (UInt8.ofNat (v / 64 % 32 + 192) :: UInt8.ofNat (v % 64 + 128) :: rest) =
      .char (Char.ofNat v) :: pieces rest := by
  have hbyte := toNat_byte (v / 64 % 32 + 192) (by omega)
  rcases exists_pieces_opens (v / 64 % 32 + 192) (UInt8.ofNat (v % 64 + 128) :: rest) (by omega)
    with ⟨p, hopens, heq⟩
  cases hopens with
  | two _ =>
      rw [heq]
      exact piecesFrom_last _ v rest (by omega)
  | three low high h => omega
  | four low high h => omega

theorem pieces_three (v : Nat) (rest : List UInt8) (h : 0x800 ≤ v ∧ v < 0x10000)
    (hvalid : v < 0xD800 ∨ 0xDFFF < v) :
    pieces (UInt8.ofNat (v / 4096 % 16 + 224) :: UInt8.ofNat (v / 64 % 64 + 128) ::
      UInt8.ofNat (v % 64 + 128) :: rest) = .char (Char.ofNat v) :: pieces rest := by
  have hbyte := toNat_byte (v / 4096 % 16 + 224) (by omega)
  rcases exists_pieces_opens (v / 4096 % 16 + 224)
    (UInt8.ofNat (v / 64 % 64 + 128) :: UInt8.ofNat (v % 64 + 128) :: rest) (by omega)
    with ⟨p, hopens, heq⟩
  cases hopens with
  | two h => omega
  | three low high _ hlow hhigh =>
      -- The bounds keep out forms that are too long, and surrogates.
      have hbounds : low.toNat ≤ v / 64 % 64 + 128 ∧ v / 64 % 64 + 128 ≤ high.toNat := by
        rw [hlow, hhigh]
        constructor
        · split <;> omega
        · split <;> omega
      have hvalue : (v / 4096 % 16 + 224 - 0xE0) * 64 + (v / 64 % 64 + 128 - 0x80) = v / 64 := by
        omega
      rw [heq, piecesFrom_tail _ _ _ (by omega) hbounds, if_neg (by dsimp only; omega)]
      dsimp only
      rw [hbyte, hvalue]
      exact piecesFrom_last _ v rest rfl
  | four low high h => omega

theorem pieces_four (v : Nat) (rest : List UInt8) (h : 0x10000 ≤ v ∧ v < 0x110000) :
    pieces (UInt8.ofNat (v / 262144 % 8 + 240) :: UInt8.ofNat (v / 4096 % 64 + 128) ::
      UInt8.ofNat (v / 64 % 64 + 128) :: UInt8.ofNat (v % 64 + 128) :: rest) =
        .char (Char.ofNat v) :: pieces rest := by
  have hbyte := toNat_byte (v / 262144 % 8 + 240) (by omega)
  rcases exists_pieces_opens (v / 262144 % 8 + 240) (UInt8.ofNat (v / 4096 % 64 + 128) ::
    UInt8.ofNat (v / 64 % 64 + 128) :: UInt8.ofNat (v % 64 + 128) :: rest) (by omega)
    with ⟨p, hopens, heq⟩
  cases hopens with
  | two h => omega
  | three low high h => omega
  | four low high _ hlow hhigh =>
      -- The bounds keep out forms that are too long, and what is above the last code point.
      have hbounds : low.toNat ≤ v / 4096 % 64 + 128 ∧ v / 4096 % 64 + 128 ≤ high.toNat := by
        rw [hlow, hhigh]
        constructor
        · split <;> omega
        · split <;> omega
      have hvalue : (v / 262144 % 8 + 240 - 0xF0) * 64 + (v / 4096 % 64 + 128 - 0x80) =
          v / 64 / 64 := by omega
      rw [heq, piecesFrom_tail _ _ _ (by omega) hbounds, if_neg (by dsimp only; omega)]
      dsimp only
      rw [hbyte, hvalue, piecesFrom_middle (v / 64 / 64) (v / 64) _ rfl]
      exact piecesFrom_last _ v rest rfl

/-- A character is read back from its bytes, whatever follows them. -/
theorem pieces_encodeChar (c : Char) (rest : List UInt8) :
    pieces (String.utf8EncodeChar c ++ rest) = .char c :: pieces rest := by
  have hvalid : c.val.toNat < 0xD800 ∨ 0xDFFF < c.val.toNat ∧ c.val.toNat < 0x110000 := c.valid
  have hchar : Char.ofNat c.val.toNat = c := Char.ofNat_toNat c
  unfold String.utf8EncodeChar
  dsimp only
  -- The encoder goes by the same bounds, so that each length has its reading above.
  split
  · rw [List.singleton_append, pieces_ascii _ rest (by omega), hchar]
  · split
    · exact (pieces_two _ rest (by omega)).trans (by rw [hchar])
    · split
      · exact (pieces_three _ rest (by omega) (by omega)).trans (by rw [hchar])
      · exact (pieces_four _ rest (by omega)).trans (by rw [hchar])

/-- A text is read back from its bytes. -/
theorem pieces_encode (cs : List Char) : pieces (encode cs) = cs.map Piece.char := by
  induction cs with
  | nil => rfl
  | cons c rest ih =>
      rw [encode, List.flatMap_cons, pieces_encodeChar, ← encode, ih, List.map_cons]

theorem decodeTolerant_encode (cs : List Char) : decodeTolerant (encode cs) = cs := by
  rw [decodeTolerant, pieces_encode, List.map_map]
  exact List.map_id cs

theorem decode?_encode (cs : List Char) : decode? (encode cs) = some cs := by
  rw [decode?, pieces_encode]
  induction cs with
  | nil => rfl
  | cons c cs ih =>
      rw [List.map_cons, List.mapM_cons, ih]
      rfl

theorem decodeTolerant_eq_nil_iff (bs : List UInt8) : decodeTolerant bs = [] ↔ bs = [] := by
  rw [decodeTolerant, List.map_eq_nil_iff]
  constructor
  · intro hnil
    by_contra hne
    exact piecesFrom_ne_nil bs none (Or.inr hne) hnil
  · intro hnil
    rw [hnil]
    rfl

/-! ## Line feeds -/

theorem ofNat_eq_lineFeed_iff (n : Nat) : Char.ofNat n = '\n' ↔ n = 10 := by
  constructor
  · intro h
    by_cases hvalid : n.isValidChar
    · rw [Char.ofNat, dif_pos hvalid] at h
      exact congrArg Char.toNat h
    · -- What is no code point becomes the zero character.
      rw [Char.ofNat, dif_neg hvalid] at h
      exact absurd h (by decide)
  · intro h
    rw [h]

theorem count_singleton_char (n : Nat) :
    [Piece.char (Char.ofNat n)].count (.char '\n') = if n = 10 then 1 else 0 := by
  rw [List.count_singleton]
  by_cases h : n = 10
  · rw [if_pos h, h]
    rfl
  · rw [if_neg h, if_neg]
    rw [beq_iff_eq, Piece.char.injEq, ofNat_eq_lineFeed_iff]
    exact h

theorem count_first (b : UInt8) :
    (first b).1.count (.char '\n') = if b.toNat = 10 then 1 else 0 := by
  rw [first]
  rcases cases_of_start b with ⟨_, heq⟩ | ⟨hb, heq⟩ | ⟨p, heq, hopens⟩
  · rw [heq]
    exact count_singleton_char b.toNat
  · rw [heq, if_neg (by omega)]
    rfl
  · have hb : 0xC2 ≤ b.toNat := by
      cases hopens <;> omega
    rw [heq, if_neg (by omega)]
    rfl

/-- A byte gives a line feed exactly if it is one. -/
theorem count_step (p : Option Pending) (b : UInt8) (hp : ∀ q ∈ p, q.IsLong) :
    (step p b).1.count (.char '\n') = if b.toNat = 10 then 1 else 0 := by
  cases p with
  | none => exact count_first b
  | some p =>
      rw [step]
      by_cases hb : (p.low ≤ b && b ≤ p.high) = true
      -- The byte goes on with a character that is long, so neither the byte nor the character
      -- is a line feed.
      · rcases (hp p rfl).le_value b hb with ⟨hlarge, hvalue⟩
        rw [if_pos hb, if_neg (by omega : ¬b.toNat = 10)]
        by_cases howed : p.owed ≤ 1
        · rw [Nat.sub_eq_zero_of_le howed, Nat.pow_zero, Nat.mul_one] at hvalue
          rw [if_pos howed, count_singleton_char, if_neg (by omega)]
        · rw [if_neg howed]
          rfl
      · rw [if_neg hb, List.count_cons_of_ne (by simp), count_first]

/-- A line feed ends the character that is being read, and is one itself. -/
theorem step_lineFeed (p : Option Pending) (hp : ∀ q ∈ p, q.IsLong) :
    step p 0x0A = (flush p ++ [.char '\n'], none) := by
  cases p with
  | none => rfl
  | some p =>
      -- The line feed lies below every bound for a next byte.
      have hlow := (hp p rfl).low
      have hb : ¬ (p.low ≤ 0x0A && (0x0A : UInt8) ≤ p.high) = true := by
        rw [Bool.and_eq_true, decide_eq_true_iff, UInt8.le_iff_toNat_le]
        intro h
        have hten : (0x0A : UInt8).toNat = 10 := rfl
        omega
      rw [step, if_neg hb]
      rfl

theorem piecesFrom_lineFeed (front back : List UInt8) :
    ∀ p : Option Pending, (∀ q ∈ p, q.IsLong) →
      piecesFrom [] p (front ++ 0x0A :: back) =
        piecesFrom [] p front ++ .char '\n' :: pieces back := by
  induction front with
  | nil =>
      intro p hp
      rw [List.nil_append, piecesFrom_cons, step_lineFeed p hp, piecesFrom_nil, List.append_assoc]
      rfl
  | cons b front ih =>
      intro p hp
      rw [List.cons_append, piecesFrom_cons, piecesFrom_cons p b front,
        ih _ (isLong_step p b hp), List.append_assoc]

theorem count_piecesFrom (bs : List UInt8) :
    ∀ p : Option Pending, (∀ q ∈ p, q.IsLong) →
      (piecesFrom [] p bs).count (.char '\n') = bs.count 0x0A := by
  induction bs with
  | nil =>
      intro p _
      cases p with
      | none => rfl
      | some p => rfl
  | cons b rest ih =>
      intro p hp
      have hb : (b == 0x0A) = true ↔ b.toNat = 10 := by
        rw [beq_iff_eq, ← UInt8.toNat_inj]
        rfl
      rw [piecesFrom_cons, List.count_append, count_step p b hp, ih _ (isLong_step p b hp),
        List.count_cons, Nat.add_comm]
      simp only [hb]

theorem shown_eq_lineFeed_iff (x : Piece) : x.shown = '\n' ↔ x = .char '\n' := by
  cases x with
  | char c => rw [Piece.shown, Piece.char.injEq]
  | invalid => exact ⟨fun h => absurd h (by decide), fun h => nomatch h⟩

/-- A line feed comes through, and parts a text from what is behind it. -/
theorem decodeTolerant_lineFeed (front back : List UInt8) :
    decodeTolerant (front ++ 0x0A :: back) =
      decodeTolerant front ++ '\n' :: decodeTolerant back := by
  rw [decodeTolerant, pieces, piecesFrom_lineFeed front back none (fun _ h => nomatch h),
    List.map_append, List.map_cons]
  rfl

/-- A text has as many line feeds as its bytes. -/
theorem count_decodeTolerant (bs : List UInt8) :
    (decodeTolerant bs).count '\n' = bs.count 0x0A := by
  rw [← count_piecesFrom bs none (fun _ h => nomatch h), decodeTolerant, List.count, List.countP_map,
    List.count]
  refine List.countP_congr fun x _ => ?_
  rw [Function.comp_apply, beq_iff_eq, beq_iff_eq]
  exact shown_eq_lineFeed_iff x

end Utf8

end CodeAudit
