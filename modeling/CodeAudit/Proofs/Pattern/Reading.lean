import CodeAudit.Glob

/-!
# Reading Patterns Mark by Mark

What is read from the marks that patterns for paths are made of.

Reading is a chain of steps, each of which hands its progress on to the next: `Parse.run_bind`. A
step that takes a mark has to look at the one behind it, since a backslash at the very end is found
there, and a repetition has to look whether it is made lazy or possessive. So what is read from
some marks depends a little on what comes next. `Inert` says that what comes next makes no
difference, and then each mark adds one tree to those read before it.

## Main definitions

* `Progress.before`: The same progress with other marks to come.
* `Inert`: Marks that take nothing away from what stands before them.

## Theorems

* `Parse.run_bind`: What is read first hands its progress on.
* `parseMark_literal`, `parseMark_escaped`: A character that stands for itself.
* `run_repeatLast`, `run_repeatLast_loop`: A repetition of the last tree.
* `run_parseSequence`: One mark more of a sequence.
* `run_parseClass`: The class of all characters but a slash.
* `run_groupStart`: The start of a group that remembers nothing.
-/

namespace CodeAudit

namespace Pattern

/-- The same progress with other marks to come. -/
def Progress.before (s : Progress) (rest : List Sign) : Progress :=
  { s with rest }

@[simp] theorem Progress.rest_before (s : Progress) (rest : List Sign) :
    (s.before rest).rest = rest := rfl

@[simp] theorem Progress.noLoops_before (s : Progress) (rest : List Sign) :
    (s.before rest).noLoops = s.noLoops := rfl

@[simp] theorem Progress.before_before (s : Progress) (rest rest' : List Sign) :
    (s.before rest).before rest' = s.before rest' := rfl

/-- The marks that can stand behind a part that is complete: they take nothing away from it. -/
def Inert (rest : List Sign) : Prop :=
  rest.head? ∉ [some .dangling, some (.plain '?'), some (.plain '+')]

theorem Inert.head?_ne {rest : List Sign} (h : Inert rest) : rest.head? ≠ some .dangling :=
  fun hdangling => h (hdangling ▸ List.mem_cons_self)

namespace Parse

variable {α β : Type}

/-- What is read first hands its progress on. -/
theorem run_bind {x : Parse α} {f : α → Parse β} {s s' : Progress} {a : α}
    (h : x.run s = .ok (a, s')) : (x >>= f).run s = (f a).run s' := by
  rw [StateT.run_bind, h]
  rfl

variable (s : Progress) (rest : List Sign)

theorem run_get : (get : Parse Progress).run s = .ok (s, s) :=
  rfl

theorem run_peek : peek.run s = .ok (s.rest.head?, s) :=
  rfl

theorem run_goTo (h : rest.head? ≠ some .dangling) :
    (goTo rest).run s = .ok ((), s.before rest) := by
  cases rest with
  | nil => rfl
  | cons t more =>
      -- Where the next mark is put down, a backslash that ends the pattern is an error.
      cases t with
      | dangling => exact absurd rfl h
      | _ => rfl

theorem run_next (t : Sign) (h : rest.head? ≠ some .dangling) :
    next.run (s.before (t :: rest)) = .ok (some t, s.before rest) := by
  unfold next
  rw [run_bind (run_get _)]
  exact run_bind (run_goTo _ rest h)

theorem run_accept (c : Char) (h : rest.head? ≠ some .dangling) :
    (accept c).run (s.before (.plain c :: rest)) = .ok (true, s.before rest) := by
  unfold accept
  rw [run_bind (run_peek _), if_pos (by simp), run_bind (run_next s rest _ h)]
  rfl

theorem run_accept_of_ne (c : Char) (h : s.rest.head? ≠ some (.plain c)) :
    (accept c).run s = .ok (false, s) := by
  unfold accept
  rw [run_bind (run_peek _), if_neg (by simpa using h)]
  rfl

end Parse

/-! ## Single marks -/

section

variable (goOn : Switches → List Node → Parse (List Node)) (group : Bool → Parse (Option Node))
  (sw : Switches) (start : Bool) (items : List Node)

/-- A character that was written behind a backslash. -/
theorem parseMark_escaped (c : Char) (n : Node) (hn : escape sw c = pure n) :
    parseMark goOn group sw start items (.escaped c) = goOn sw (n :: items) := by
  rw [parseMark, hn, pure_bind]

variable (hv : sw.verbose = false)

include hv

/-- The point. -/
theorem parseMark_point :
    parseMark goOn group sw start items (.plain '.') =
      goOn sw (.one sw.folding (if sw.dotAll then .any else .anyInLine) :: items) := by
  simp [parseMark, hv]

/-- A character that means nothing else stands for itself. -/
theorem parseMark_literal (c : Char) (hc : c ∉ Glob.escapedChars) :
    parseMark goOn group sw start items (.plain c) =
      goOn sw (.one sw.folding (.char c.toNat) :: items) := by
  -- The characters that are escaped are those that mean something, so that no branch before the
  -- last one is taken.
  simp only [Glob.escapedChars, List.mem_cons, not_or] at hc
  simp [parseMark, hv, hc]

/-- A class. -/
theorem parseMark_class :
    parseMark goOn group sw start items (.plain '[') =
      (parseClass sw >>= fun n => goOn sw (n :: items)) := by
  simp [parseMark, hv]

/-- A group in which something is to be matched. -/
theorem run_parseMark_group (s s' : Progress) (n : Node)
    (hn : (group (start && items.isEmpty)).run s = .ok (some n, s')) :
    (parseMark goOn group sw start items (.plain '(')).run s = (goOn sw (n :: items)).run s' := by
  simp only [parseMark, hv, Bool.false_and, Bool.false_eq_true, if_false, Char.reduceBEq, if_true]
  rw [Parse.run_bind hn]

/-- A repetition of the last tree. -/
theorem parseMark_loop (c : Char) (hc : c = '?' ∨ c = '*') (least : Nat) (most : Option Nat)
    (hstart : loopStart c = pure (some (least, most))) :
    parseMark goOn group sw start items (.plain c) = (repeatLast least most items >>= goOn sw) := by
  -- Either character goes through the same branches.
  rcases hc with rfl | rfl
  all_goals
    simp [parseMark, hv, hstart]

end

/-- A repetition is greedy if nothing behind it says otherwise. -/
theorem run_greediness (s : Progress) (rest : List Sign) (hrest : Inert rest) :
    greediness.run (s.before rest) = .ok (.greedy, s.before rest) := by
  simp only [Inert, List.mem_cons, List.not_mem_nil, or_false, not_or] at hrest
  -- A mark for a lazy or a possessive repetition would be taken here; there is none.
  have hlazy := Parse.run_accept_of_ne (s.before rest) '?' hrest.2.1
  have hpossessive := Parse.run_accept_of_ne (s.before rest) '+' hrest.2.2
  rw [greediness, Parse.run_bind hlazy, if_neg (by decide), Parse.run_bind hpossessive,
    if_neg (by decide)]
  rfl

/-- The last tree is repeated greedily if nothing behind the repetition says otherwise. -/
theorem run_repeatLast (s : Progress) (items : List Node) (rest : List Sign) (least : Nat)
    (most : Option Nat) (n : Node) (hn : isRepeatable n = true) (hrest : Inert rest)
    (hs : s.noLoops = false) :
    (repeatLast least most (n :: items)).run (s.before rest) =
      .ok (.loop .greedy least most (unwrapped n) :: items, s.before rest) := by
  rw [repeatLast, hn]
  simp only [Bool.not_true, Bool.false_eq_true, if_false]
  rw [Parse.run_bind (run_greediness s rest hrest), Parse.run_bind (Parse.run_get _),
    if_neg (by simp [hs])]
  rfl

/-- A repetition is not repeated again, whatever has been read of how greedy it is. -/
theorem run_repeatLast_loop (s : Progress) (items : List Node) (greed : Greed) (least again : Nat)
    (most mostAgain : Option Nat) (body : Node) :
    (repeatLast again mostAgain (.loop greed least most body :: items)).run s =
      .error .malformed := rfl

example : (parse "a+?".toList).toOption.isSome = true ∧
    (parse "a+?+".toList).toOption.isNone = true := by decide +kernel

/-! ## Sequences -/

/-- The end of a sequence: no mark is left, or a parenthesis closes. -/
theorem run_parseSequence_end (s : Progress) (sw : Switches) (start : Bool) (items : List Node)
    (fuel : Nat) (h : s.rest.head?.all (· == .plain ')') = true) :
    (parseSequence (fuel + 1) sw start items).run s = .ok (items.reverse, s) := by
  rw [parseSequence, Parse.run_bind (Parse.run_peek _)]
  cases hrest : s.rest with
  | nil => rfl
  | cons t rest =>
      have ht : t = .plain ')' := by simpa [hrest] using h
      rw [ht]
      rfl

/-- One mark more of a sequence. -/
theorem run_parseSequence (s : Progress) (sw : Switches) (start : Bool) (items : List Node)
    (fuel : Nat) (t : Sign) (rest : List Sign) (ht : t ∉ [.plain '|', .plain ')'])
    (h : rest.head? ≠ some .dangling) :
    (parseSequence (fuel + 1) sw start items).run (s.before (t :: rest)) =
      (parseMark (fun sw items => parseSequence fuel sw start items)
        (fun first => parseGroup fuel sw first) sw start items t).run (s.before rest) := by
  rw [parseSequence, Parse.run_bind (Parse.run_peek _)]
  dsimp only [Progress.rest_before, List.head?_cons]
  rw [if_neg (by simpa using ht), Parse.run_bind (Parse.run_next s rest _ h)]

/-! ## Classes and groups -/

/-- The one member of a class that is a slash. -/
theorem run_classItems (s : Progress) (ascii : Bool) (fuel : Nat) (rest : List Sign)
    (h : rest.head? ≠ some .dangling) :
    (classItems ascii (fuel + 2) []).run (s.before (.plain '/' :: .plain ']' :: rest)) =
      .ok ([.char '/'.toNat], s.before rest) := by
  rw [classItems, Parse.run_bind (Parse.run_next s _ _ (by simp))]
  simp only [List.isEmpty_nil, Bool.not_true, Bool.and_false, Bool.false_eq_true, if_false,
    classItem, pure_bind]
  rw [Parse.run_bind (Parse.run_accept_of_ne _ '-' (by simp))]
  simp only [Bool.false_eq_true, if_false]
  rw [classItems, Parse.run_bind (Parse.run_next s _ _ h)]
  rfl

/-- The class of all characters but a slash. -/
theorem run_parseClass (s : Progress) (sw : Switches) (rest : List Sign)
    (h : rest.head? ≠ some .dangling) :
    (parseClass sw).run (s.before (.plain '^' :: .plain '/' :: .plain ']' :: rest)) =
      .ok (.one sw.folding (.notChar '/'.toNat), s.before rest) := by
  unfold parseClass
  rw [Parse.run_bind (Parse.run_accept s _ _ (by simp)), Parse.bound, bind_assoc,
    Parse.run_bind (Parse.run_get _), pure_bind]
  exact Parse.run_bind (run_classItems s sw.ascii (rest.length + 1) rest h)

/-- The start of a group that remembers nothing. -/
theorem run_groupStart (s : Progress) (sw : Switches) (first : Bool) (rest : List Sign)
    (h : rest.head? ≠ some .dangling) :
    (groupStart sw first).run (s.before (.plain '?' :: .plain ':' :: rest)) =
      .ok (.bare sw, s.before rest) := by
  unfold groupStart
  rw [Parse.run_bind (Parse.run_accept s _ _ (by simp)), if_pos rfl,
    Parse.run_bind (Parse.run_next s _ _ h)]
  rfl

end Pattern

end CodeAudit
