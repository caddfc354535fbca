import CodeAudit.Proofs.Glob.Compiled
import CodeAudit.Proofs.Pattern.Pieces

/-!
# What Globs Match

The meaning of globs, and that matching decides it.

A glob means the tokens it is read into, and a sequence of tokens means the texts that can be cut
into pieces, one for each. Neither says how a match is found. It is found by a regular expression
that tries the pieces of a token from the longest to the shortest, and takes its choice back where
what follows fails, for every order of wildcards next to one another.

## Main definitions

* `Reads`: A glob is read into tokens.
* `Token.StandsFor`: A token stands for a text.
* `StandFor`: A text can be cut into pieces that tokens stand for.

## Theorems

* `Reads.eq_tokens`: A glob is read into tokens in one way.
* `takes_node`: The tree of a token takes the texts that the token stands for.
* `matchesGlob_iff_reads`: A path matches a glob if it can be cut into pieces.
-/

namespace CodeAudit

namespace Glob

open Pattern

/-! ## What globs mean -/

/-- A glob is read into tokens from the left. Two asterisks with a slash behind them come before
    two asterisks alone, and these before one. -/
inductive Reads : List Char → List Token → Prop
  | nil : Reads [] []
  | folders {rest : List Char} {ts : List Token} (h : Reads rest ts) :
      Reads ('*' :: '*' :: '/' :: rest) (.folders :: ts)
  | anything {rest : List Char} {ts : List Token} (hslash : rest.head? ≠ some '/')
      (h : Reads rest ts) : Reads ('*' :: '*' :: rest) (.anything :: ts)
  | nameText {rest : List Char} {ts : List Token} (hstar : rest.head? ≠ some '*')
      (h : Reads rest ts) : Reads ('*' :: rest) (.nameText :: ts)
  | nameChar {rest : List Char} {ts : List Token} (h : Reads rest ts) :
      Reads ('?' :: rest) (.nameChar :: ts)
  | literal {c : Char} {rest : List Char} {ts : List Token} (hstar : c ≠ '*') (hmark : c ≠ '?')
      (h : Reads rest ts) : Reads (c :: rest) (.literal c :: ts)

/-- A token stands for a text. -/
def Token.StandsFor : Token → List Char → Prop
  | .folders, piece => piece = [] ∨ ∃ front, piece = front ++ ['/']
  | .anything, _ => True
  | .nameText, piece => '/' ∉ piece
  | .nameChar, piece => ∃ c, piece = [c] ∧ c ≠ '/'
  | .literal c, piece => piece = [c]

/-- A text can be cut into pieces, one for each token, that the tokens stand for. -/
def StandFor (ts : List Token) (text : List Char) : Prop :=
  ∃ pieces, List.Forall₂ Token.StandsFor ts pieces ∧ pieces.flatten = text

/-- A glob is read into its tokens. -/
theorem reads_tokens (glob : List Char) : Reads glob (tokens glob) := by
  -- The cases are those of the reader. In two of them a longer mark was tried before and
  -- failed.
  fun_induction tokens glob with
  | case1 => exact .nil
  | case2 rest ih => exact .folders ih
  | case3 rest hslash ih =>
      refine .anything (fun hhead => ?_) ih
      rcases List.head?_eq_some_iff.mp hhead with ⟨more, hrest⟩
      exact hslash more hrest
  | case4 rest _ hstar ih =>
      refine .nameText (fun hhead => ?_) ih
      rcases List.head?_eq_some_iff.mp hhead with ⟨more, hrest⟩
      exact hstar more hrest
  | case5 rest ih => exact .nameChar ih
  | case6 c rest _ _ hstar hmark ih => exact .literal hstar hmark ih

/-- A glob is read into tokens in one way. -/
theorem Reads.eq_tokens {glob : List Char} {ts : List Token} (h : Reads glob ts) :
    ts = tokens glob := by
  induction h with
  | nil => rfl
  | folders _ ih => rw [ih, tokens]
  | anything hslash _ ih =>
      -- What stands behind is not what a longer mark would need, so the reader takes this one.
      rw [ih, tokens]
      rintro more rfl
      exact hslash rfl
  | nameText hstar _ ih =>
      rw [ih, tokens]
      · rintro more rfl
        exact hstar rfl
      · rintro more rfl
        exact hstar rfl
  | nameChar _ ih => rw [ih, tokens]
  | literal hstar hmark _ ih =>
      rw [ih, tokens]
      · exact fun _ hc => absurd hc hstar
      · exact fun _ hc => absurd hc hstar
      · exact hstar
      · exact hmark

/-! ## Pieces one by one -/

theorem standFor_nil (text : List Char) : StandFor [] text ↔ text = [] := by
  simp only [StandFor, List.forall₂_nil_left_iff, exists_eq_left, List.flatten_nil]
  exact eq_comm

theorem standFor_cons (t : Token) (ts : List Token) (text : List Char) :
    StandFor (t :: ts) text ↔ ∃ piece rest, text = piece ++ rest ∧ t.StandsFor piece ∧
      StandFor ts rest := by
  constructor
  · rintro ⟨_, hall, rfl⟩
    cases hall with
    | cons hpiece hmore => exact ⟨_, _, rfl, hpiece, _, hmore, rfl⟩
  · rintro ⟨piece, _, rfl, hpiece, pieces, hmore, rfl⟩
    exact ⟨piece :: pieces, .cons hpiece hmore, rfl⟩

/-- Characters that stand for themselves stand at the front. -/
theorem standFor_literals (s : List Char) (ts : List Token) :
    ∀ text, StandFor (s.map .literal ++ ts) text ↔ ∃ rest, text = s ++ rest ∧ StandFor ts rest := by
  induction s with
  | nil => simp
  | cons c s ih =>
      intro text
      rw [List.map_cons, List.cons_append, standFor_cons]
      constructor
      · rintro ⟨_, rest, rfl, rfl, hrest⟩
        rcases (ih rest).mp hrest with ⟨more, rfl, hmore⟩
        exact ⟨more, rfl, hmore⟩
      · rintro ⟨more, rfl, hmore⟩
        exact ⟨[c], s ++ more, rfl, rfl, (ih _).mpr ⟨more, rfl, hmore⟩⟩

/-! ## How they are matched -/

theorem accepts_char (c d : Char) :
    (CharTest.char d.toNat).accepts .none c = true ↔ c = d := by
  simp only [CharTest.accepts, Folding.same, Folding.alike, Folding.fold, List.contains_cons,
    List.contains_nil, Bool.or_false, beq_iff_eq, Char.toNat_inj]
  exact eq_comm

theorem accepts_notChar (c d : Char) :
    (CharTest.notChar d.toNat).accepts .none c = true ↔ c ≠ d := by
  rw [ne_eq, ← accepts_char c d]
  simp only [CharTest.accepts, Bool.not_eq_true', Bool.not_eq_true]

theorem takes_upToSlash (text : List Char) :
    Step.Takes text (upToSlash.run text.toArray) fun piece => ∃ front, piece = front ++ ['/'] := by
  rw [upToSlash, run_sequence]
  -- Any characters, then the slash, then nothing.
  refine (takes_cons (takes_many .any) (takes_cons (takes_one _) takes_nil)).congr fun piece => ?_
  simp only [accepts_char]
  constructor
  · rintro ⟨first, _, rfl, _, _, _, rfl, ⟨_, rfl, rfl⟩, rfl⟩
    exact ⟨first, rfl⟩
  · rintro ⟨first, rfl⟩
    exact ⟨first, ['/'], rfl, fun _ _ => rfl, ['/'], [], rfl, ⟨'/', rfl, rfl⟩, rfl⟩

/-- The tree of a token takes the texts that the token stands for. -/
theorem takes_node (text : List Char) (t : Token) :
    Step.Takes text (t.node.run text.toArray) t.StandsFor := by
  cases t with
  -- Folders are optional, and the body of the option is no single character, so that the loop
  -- is no run of characters.
  | folders => exact takes_option (fun _ _ h => nomatch h) (takes_upToSlash text)
  | anything => exact (takes_many _).congr fun _ => by simp [Token.StandsFor, CharTest.accepts]
  | nameText =>
      refine (takes_many _).congr fun piece => ?_
      simp only [Token.StandsFor, accepts_notChar]
      exact ⟨fun h hslash => h _ hslash rfl, fun h c hc heq => h (heq ▸ hc)⟩
  | nameChar =>
      refine (takes_one _).congr fun piece => ?_
      simp only [Token.StandsFor, accepts_notChar]
  | literal c =>
      refine (takes_one _).congr fun piece => ?_
      simp only [Token.StandsFor, accepts_char, exists_eq_right]

end Glob

open Glob Pattern

/-- A path matches a glob exactly if it can be cut into pieces for the tokens. -/
theorem matchesGlob_iff_standFor (path glob : List Char) :
    matchesGlob path glob = true ↔ StandFor (tokens glob) path := by
  have htakes := takes_sequence Token.node Token.StandsFor (takes_node path) (tokens glob)
  unfold matchesGlob
  rw [compile_eq]
  dsimp only [Regex.fullMatches]
  rw [show (0 : Nat) = ([] : List Char).length from rfl, htakes [] path [] _ rfl]
  constructor
  -- The match ends where the path does, so nothing is left over behind the piece.
  · rintro ⟨piece, left, hpath, ⟨pieces, hpieces, hflat⟩, hend⟩
    have hlen : piece.length = path.length := by simpa using hend
    have hleft : left = [] := by
      rw [hpath, List.length_append] at hlen
      exact List.eq_nil_of_length_eq_zero (by omega)
    rw [hleft, List.append_nil] at hpath
    exact ⟨pieces, hpieces, hflat.trans hpath.symm⟩
  · intro hstand
    exact ⟨path, [], (List.append_nil path).symm, hstand, by simp⟩

/-- Every glob has a regular expression, and is read into tokens in exactly one way. A path matches
    it exactly if the path can be cut into pieces, one for each token, that the tokens stand
    for. -/
theorem matchesGlob_iff_reads (path glob : List Char) :
    (∃ r, compile glob = .ok r) ∧ (∃! ts, Reads glob ts) ∧ (matchesGlob path glob = true ↔
      ∃ ts pieces, Reads glob ts ∧ List.Forall₂ Token.StandsFor ts pieces ∧
        pieces.flatten = path) := by
  refine ⟨⟨_, compile_eq glob⟩, ⟨tokens glob, reads_tokens glob, fun ts h => h.eq_tokens⟩, ?_⟩
  rw [matchesGlob_iff_standFor]
  constructor
  · rintro ⟨pieces, hpieces, hpath⟩
    exact ⟨tokens glob, pieces, reads_tokens glob, hpieces, hpath⟩
  · rintro ⟨ts, pieces, hreads, hpieces, hpath⟩
    rw [hreads.eq_tokens] at hpieces
    exact ⟨pieces, hpieces, hpath⟩

/-- The asterisk behind two others keeps within a name, and the two do not. -/
example : matchesGlob "a/b/c".toList "***/c".toList = true ∧
    matchesGlob "ac".toList "***/c".toList = false := by decide +kernel

end CodeAudit
