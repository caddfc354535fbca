import CodeAudit.Proofs.Pattern.Reading

/-!
# The Regular Expressions of Globs

Every glob is written as a text that is a regular expression, and its tree is known.

A token is written in one of five ways. None of them takes anything away from what is written
before it, so the text is read token by token: `exists_of_token` is the step, and `run_tokens` the
induction over the tokens. Characters that would mean something in a regular expression are written
behind a backslash, and what is read from them is the character again.

## Main definitions

* `Token.node`: The tree that is read from what a token is written as.
* `Token.signs`: The marks of what a token is written as.

## Theorems

* `signs_source`: The text of a token can be cut off from what is behind it.
* `exists_of_token`: What a token is written as is read as its tree.
* `compile_eq`: The regular expression of a glob.
-/

namespace CodeAudit

namespace Glob

open Pattern

/-- Any number of characters that pass a test, as many as possible first. -/
def manyOf (test : CharTest) : Node :=
  .loop .greedy 0 none (.one .none test)

/-- Any text that ends in a slash. -/
def upToSlash : Node :=
  .sequence [manyOf .any, .one .none (.char '/'.toNat)]

/-- The tree that is read from what a token is written as. -/
def Token.node : Token → Node
  | .folders => .loop .greedy 0 (some 1) upToSlash
  | .anything => manyOf .any
  | .nameText => manyOf (.notChar '/'.toNat)
  | .nameChar => .one .none (.notChar '/'.toNat)
  | .literal c => .one .none (.char c.toNat)

/-! ## Marks -/

/-- The mark of a character that stands for itself. -/
def literalSign (c : Char) : Sign :=
  if escapedChars.contains c then .escaped c else .plain c

/-- The marks of what a token is written as. -/
def Token.signs : Token → List Sign
  | .folders => ['(', '?', ':', '.', '*', '/', ')', '?'].map .plain
  | .anything => ['.', '*'].map .plain
  | .nameText => ['[', '^', '/', ']', '*'].map .plain
  | .nameChar => ['[', '^', '/', ']'].map .plain
  | .literal c => [literalSign c]

theorem signs_plain (c : Char) (cs : List Char) (hc : c ≠ '\\') :
    signs (c :: cs) = .plain c :: signs cs := by
  rw [signs]
  · exact fun hslash => absurd hslash hc
  · exact fun _ _ hslash => absurd hslash hc

theorem signs_escape (c : Char) (cs : List Char) :
    signs (Glob.escape c ++ cs) = literalSign c :: signs cs := by
  unfold Glob.escape literalSign
  split
  · rfl
  · rename_i hc
    refine signs_plain c cs ?_
    rintro rfl
    exact hc rfl

/-- The text of a token can be cut off from what is behind it. -/
theorem signs_source (t : Token) (cs : List Char) :
    signs (t.source ++ cs) = t.signs ++ signs cs := by
  cases t with
  | literal c => exact signs_escape c cs
  | _ => rfl

theorem signs_sources (ts : List Token) :
    signs (ts.flatMap Token.source) = ts.flatMap Token.signs := by
  -- Tokens are written without backslashes; only a character that stands for itself may bring
  -- one.
  induction ts with
  | nil => rfl
  | cons t ts ih => rw [List.flatMap_cons, signs_source, ih, List.flatMap_cons]

/-- A character that stands for itself does not make a repetition before it lazy or possessive. -/
theorem inert_literalSign (c : Char) (rest : List Sign) : Inert (literalSign c :: rest) := by
  unfold literalSign Inert
  split
  · simp
  · rename_i hc
    -- Both marks are among the characters that are escaped, so that a plain sign is neither.
    have hoption : '?' ≠ c := by rintro rfl; exact hc rfl
    have hplus : '+' ≠ c := by rintro rfl; exact hc rfl
    simp [hoption.symm, hplus.symm]

/-- What a token is written as takes nothing away from what is written before it. -/
theorem inert_signs (ts : List Token) : Inert (ts.flatMap Token.signs) := by
  cases ts with
  | nil => simp [Inert]
  | cons t ts =>
      cases t with
      | literal c => exact inert_literalSign c _
      | _ => simp [Inert, Token.signs]

/-! ## Trees -/

/-- A character that was written behind a backslash is read as itself. -/
theorem escape_literal (c : Char) (h : c ∈ escapedChars) :
    Pattern.escape switches c = pure (.one .none (.char c.toNat)) := by
  -- A backslash gives letters and digits a meaning. The characters that are escaped are
  -- neither, which is checked one by one.
  revert c
  simp only [escapedChars, List.forall_mem_cons]
  exact ⟨rfl, rfl, rfl, rfl, rfl, rfl, rfl, rfl, rfl, rfl, rfl, rfl, rfl, rfl, rfl, rfl, rfl, rfl,
    rfl, rfl, rfl, rfl, rfl, rfl, fun _ h => absurd h List.not_mem_nil⟩

section

variable (s : Progress) (hs : s.noLoops = false) (rest : List Sign)

/-- The point. -/
theorem run_point (fuel : Nat) (start : Bool) (items : List Node)
    (h : rest.head? ≠ some .dangling) :
    (parseSequence (fuel + 1) switches start items).run (s.before (.plain '.' :: rest)) =
      (parseSequence fuel switches start (.one .none .any :: items)).run (s.before rest) := by
  rw [run_parseSequence s _ _ _ _ _ _ (by simp) h, parseMark_point _ _ _ _ _ rfl]
  rfl

/-- The class of all characters but a slash. -/
theorem run_slashClass (fuel : Nat) (start : Bool) (items : List Node)
    (h : rest.head? ≠ some .dangling) :
    (parseSequence (fuel + 1) switches start items).run
        (s.before (.plain '[' :: .plain '^' :: .plain '/' :: .plain ']' :: rest)) =
      (parseSequence fuel switches start (.one .none (.notChar '/'.toNat) :: items)).run
        (s.before rest) := by
  rw [run_parseSequence s _ _ _ _ _ _ (by simp) (by simp), parseMark_class _ _ _ _ _ rfl,
    Parse.run_bind (run_parseClass s switches rest h)]
  rfl

/-- A character that stands for itself. -/
theorem run_literal (c : Char) (fuel : Nat) (start : Bool) (items : List Node)
    (h : rest.head? ≠ some .dangling) :
    (parseSequence (fuel + 1) switches start items).run (s.before (literalSign c :: rest)) =
      (parseSequence fuel switches start (.one .none (.char c.toNat) :: items)).run
        (s.before rest) := by
  unfold literalSign
  split
  · rename_i hc
    have hread := escape_literal c (List.contains_iff_mem.mp hc)
    rw [run_parseSequence s _ _ _ _ _ _ (by simp) h, parseMark_escaped _ _ _ _ _ c _ hread]
  · rename_i hc
    have hplain : c ∉ escapedChars := fun hmem => hc (List.contains_iff_mem.mpr hmem)
    have hbar : c ≠ '|' := by rintro rfl; exact hc rfl
    have hclose : c ≠ ')' := by rintro rfl; exact hc rfl
    rw [run_parseSequence s _ _ _ _ _ _ (by simp [hbar, hclose]) h,
      parseMark_literal _ _ _ _ _ rfl c hplain]
    rfl

include hs

/-- A repetition of the last tree. -/
theorem run_loop (c : Char) (hc : c = '?' ∨ c = '*') (least : Nat) (most : Option Nat)
    (hstart : loopStart c = pure (some (least, most))) (fuel : Nat) (start : Bool) (n : Node)
    (items : List Node) (hn : isRepeatable n = true) (hrest : Inert rest) :
    (parseSequence (fuel + 1) switches start (n :: items)).run (s.before (.plain c :: rest)) =
      (parseSequence fuel switches start (.loop .greedy least most (unwrapped n) :: items)).run
        (s.before rest) := by
  have hmark : Sign.plain c ∉ [.plain '|', .plain ')'] := by rcases hc with rfl | rfl <;> simp
  rw [run_parseSequence s _ _ _ _ _ _ hmark hrest.head?_ne,
    parseMark_loop _ _ _ _ _ rfl c hc least most hstart,
    Parse.run_bind (run_repeatLast s items rest least most n hn hrest hs)]

/-- What is written between the parentheses of a token for folders. -/
theorem run_upToSlash (fuel : Nat) :
    (parseChoice (fuel + 5) false switches).run
        (s.before (.plain '.' :: .plain '*' :: .plain '/' :: .plain ')' :: rest)) =
      .ok (upToSlash, s.before (.plain ')' :: rest)) := by
  -- Between the parentheses stand two trees, up to the parenthesis that ends the choice.
  have hitems : (parseSequence (fuel + 4) switches false []).run
        (s.before (.plain '.' :: .plain '*' :: .plain '/' :: .plain ')' :: rest)) =
      .ok ([manyOf .any, .one .none (.char '/'.toNat)], s.before (.plain ')' :: rest)) := by
    rw [run_point s _ _ _ _ (by simp),
      run_loop s hs _ '*' (Or.inr rfl) 0 none rfl _ _ _ _ rfl (by simp [Inert])]
    exact (run_literal s _ '/' _ _ _ (by simp)).trans (run_parseSequence_end _ _ _ _ _ rfl)
  rw [parseChoice, Parse.run_bind hitems, Parse.run_bind (Parse.run_accept_of_ne _ '|' (by simp))]
  rfl

/-- The group of a token for folders. -/
theorem run_folders (fuel : Nat) (first : Bool) (hrest : rest.head? ≠ some .dangling) :
    (parseGroup (fuel + 6) switches first).run
        (s.before (.plain '?' :: .plain ':' :: .plain '.' :: .plain '*' :: .plain '/' ::
          .plain ')' :: rest)) =
      .ok (some upToSlash, s.before rest) := by
  rw [parseGroup, Parse.run_bind (run_groupStart s switches first _ (by simp))]
  dsimp only
  rw [Parse.run_bind (run_upToSlash s hs rest fuel), Parse.expect, bind_assoc,
    Parse.run_bind (Parse.run_accept s _ _ hrest)]
  rfl

/-- What a token is written as is read as its tree. -/
theorem exists_of_token (t : Token) (start : Bool) (items : List Node) (hrest : Inert rest)
    (fuel : Nat) (hfuel : t.signs.length + rest.length < fuel) :
    ∃ fuel', rest.length < fuel' ∧
      (parseSequence fuel switches start items).run (s.before (t.signs ++ rest)) =
        (parseSequence fuel' switches start (t.node :: items)).run (s.before rest) := by
  have hdangling := hrest.head?_ne
  cases t with
  | folders =>
      -- The group takes one unit of fuel here, and seven more for what is inside.
      change 8 + rest.length < fuel at hfuel
      rcases Nat.exists_eq_add_of_le' (show 8 ≤ fuel by omega) with ⟨k, rfl⟩
      refine ⟨k + 6, by omega, ?_⟩
      have hgroup := run_folders s hs (.plain '?' :: rest) (k + 1) (start && items.isEmpty)
        (by simp)
      simp only [Token.signs, List.map_cons, List.map_nil, List.cons_append, List.nil_append]
      rw [run_parseSequence s _ _ _ _ _ _ (by simp) (by simp),
        run_parseMark_group _ _ _ _ _ rfl _ _ _ hgroup,
        run_loop s hs _ '?' (Or.inl rfl) 0 (some 1) rfl _ _ _ _ rfl hrest]
      rfl
  | anything =>
      change 2 + rest.length < fuel at hfuel
      rcases Nat.exists_eq_add_of_le' (show 2 ≤ fuel by omega) with ⟨k, rfl⟩
      refine ⟨k, by omega, ?_⟩
      simp only [Token.signs, List.map_cons, List.map_nil, List.cons_append, List.nil_append]
      rw [run_point s _ _ _ _ (by simp),
        run_loop s hs _ '*' (Or.inr rfl) 0 none rfl _ _ _ _ rfl hrest]
      rfl
  | nameText =>
      change 5 + rest.length < fuel at hfuel
      rcases Nat.exists_eq_add_of_le' (show 2 ≤ fuel by omega) with ⟨k, rfl⟩
      refine ⟨k, by omega, ?_⟩
      simp only [Token.signs, List.map_cons, List.map_nil, List.cons_append, List.nil_append]
      rw [run_slashClass s _ _ _ _ (by simp),
        run_loop s hs _ '*' (Or.inr rfl) 0 none rfl _ _ _ _ rfl hrest]
      rfl
  | nameChar =>
      change 4 + rest.length < fuel at hfuel
      rcases Nat.exists_eq_add_of_le' (show 1 ≤ fuel by omega) with ⟨k, rfl⟩
      exact ⟨k, by omega, run_slashClass s rest k start items hdangling⟩
  | literal c =>
      change 1 + rest.length < fuel at hfuel
      rcases Nat.exists_eq_add_of_le' (show 1 ≤ fuel by omega) with ⟨k, rfl⟩
      exact ⟨k, by omega, run_literal s rest c k start items hdangling⟩

/-- The trees of tokens are read one behind the other. -/
theorem run_tokens (ts : List Token) (start : Bool) :
    ∀ items fuel, (ts.flatMap Token.signs).length < fuel →
      (parseSequence fuel switches start items).run (s.before (ts.flatMap Token.signs)) =
        .ok (items.reverse ++ ts.map Token.node, s.before []) := by
  induction ts with
  | nil =>
      intro items fuel hfuel
      rcases Nat.exists_eq_add_of_le' (show 1 ≤ fuel from hfuel) with ⟨k, rfl⟩
      rw [List.map_nil, List.append_nil]
      exact run_parseSequence_end _ _ _ _ _ rfl
  | cons t ts ih =>
      intro items fuel hfuel
      rw [List.flatMap_cons] at hfuel ⊢
      rw [List.length_append] at hfuel
      -- Each token needs fuel of its own length, and what is left is enough for the rest.
      rcases exists_of_token s hs _ t start items (inert_signs ts) fuel hfuel with
        ⟨fuel', hfuel', hstep⟩
      rw [hstep, ih (t.node :: items) fuel' hfuel', List.reverse_cons, List.append_assoc,
        List.map_cons]
      rfl

theorem run_tokensChoice (ts : List Token) (fuel : Nat)
    (hfuel : (ts.flatMap Token.signs).length < fuel) :
    (parseChoice (fuel + 1) true switches).run (s.before (ts.flatMap Token.signs)) =
      .ok (.sequence (ts.map Token.node), s.before []) := by
  rw [parseChoice, Parse.run_bind (run_tokens s hs ts true [] fuel hfuel),
    Parse.run_bind (Parse.run_accept_of_ne _ '|' (by simp))]
  rfl

end

theorem run_parseWhole (ts : List Token) :
    parseWhole.run { rest := ts.flatMap Token.signs, whole := switches } =
      .ok (.sequence (ts.map Token.node), { rest := [], whole := switches }) := by
  have hgo := Parse.run_goTo { rest := ts.flatMap Token.signs, whole := switches } _
    (inert_signs ts).head?_ne
  have hchoice := run_tokensChoice { rest := [], whole := switches } rfl ts
    (4 * (ts.flatMap Token.signs).length + 7) (by omega)
  rw [parseWhole, Parse.run_bind (Parse.run_get _), Parse.run_bind hgo, Parse.bound, bind_assoc,
    Parse.run_bind (Parse.run_get _), pure_bind, Parse.run_bind (Parse.run_get _),
    Progress.rest_before, show ∀ n, 4 * (n + 1) + 4 = 4 * n + 7 + 1 by omega]
  exact Parse.run_bind hchoice

/-- The regular expression of a glob has the trees of the tokens one behind the other. -/
theorem compile_eq (glob : List Char) :
    compile glob = .ok ⟨.sequence ((tokens glob).map Token.node), 0⟩ := by
  unfold compile Pattern.parse source
  rw [signs_sources, run_parseWhole]
  rfl

end Glob

end CodeAudit
