import CodeAudit.Text.Blank
import CodeAudit.Text.Case
import CodeAudit.Text.Digit
import CodeAudit.Text.Word

/-!
# Character Tests

What a pattern can ask of a single character.

A test is a character, a class between brackets, or the point. It can ignore case, among
all letters or among the ASCII letters only. Then the character is looked at in its small
form, and a member of the test stands for every character with the same small form; a few
small letters that share a capital form, such as the two forms of sigma, stand for one
another as well.

Characters of a test are given as code points, since a pattern may name code points that
no text contains.

## Main definitions

* `Folding`: Which letters are compared without regard to case.
* `Folding.fold`: A code point in its small form.
* `CharClass`: Digits, blanks and word characters.
* `ClassItem`: A member of a class between brackets.
* `CharTest`: What is asked of a character.
* `CharTest.accepts`: A character passes a test.
-/

namespace CodeAudit

namespace Pattern

/-- Which letters are compared without regard to case. -/
inductive Folding
  | none
  | ascii
  | unicode
deriving DecidableEq, Repr

/-- Small letters with a common capital form. -/
def sharedCapitals : List (List Nat) :=
  [[0x69, 0x131], [0x73, 0x17f], [0xb5, 0x3bc], [0x345, 0x3b9, 0x1fbe], [0x390, 0x1fd3],
   [0x3b0, 0x1fe3], [0x3b2, 0x3d0], [0x3b5, 0x3f5], [0x3b8, 0x3d1], [0x3ba, 0x3f0],
   [0x3c0, 0x3d6], [0x3c1, 0x3f1], [0x3c2, 0x3c3], [0x3c6, 0x3d5], [0x432, 0x1c80],
   [0x434, 0x1c81], [0x43e, 0x1c82], [0x441, 0x1c83], [0x442, 0x1c84, 0x1c85],
   [0x44a, 0x1c86], [0x463, 0x1c87], [0x1c88, 0xa64b], [0x1e61, 0x1e9b], [0xfb05, 0xfb06]]

/-- A code point in its small form. -/
def Folding.fold : Folding → Nat → Nat
  | .none, n => n
  | .ascii, n => if 65 ≤ n && n ≤ 90 then n + 32 else n
  | .unicode, n => shifted lowerRuns n

/-- The small letters that count as the same letter as one of them. -/
def Folding.alike : Folding → Nat → List Nat
  | .unicode, n => (sharedCapitals.find? fun group => group.contains n).getD [n]
  | _, n => [n]

/-- The code points a run moves to a code point. -/
def CaseRun.source? (r : CaseRun) (n : Nat) : Option Nat :=
  let source : Int := Int.ofNat n - r.shift
  if source < 0 then none
  else
    let s := source.toNat
    if r.first ≤ s && s ≤ r.last && (s - r.first) % r.stride == 0 then some s else none

/-- The code points with a given small form. -/
def Folding.sources : Folding → Nat → List Nat
  | .none, n => [n]
  | .ascii, n => if 97 ≤ n && n ≤ 122 then [n, n - 32] else [n]
  | .unicode, n => n :: lowerRuns.filterMap fun r => CaseRun.source? r n

/-- Digits, blanks and word characters. -/
inductive CharClass
  | digit
  | blank
  | word
deriving DecidableEq, Repr

/-- A character belongs to a class, among all characters or among ASCII only. -/
def CharClass.contains (ascii : Bool) (k : CharClass) (c : Char) : Bool :=
  match k with
  | .digit => if ascii then c.isDigit else isDecimal c
  | .blank => if ascii then c == ' ' || (9 ≤ c.toNat && c.toNat ≤ 13) else isBlank c
  | .word => if ascii then isAsciiWordChar c else isWordChar c

/-- A member of a class between brackets. -/
inductive ClassItem
  | char (n : Nat)
  | range (lo hi : Nat)
  | kind (k : CharClass) (negated ascii : Bool)
deriving DecidableEq, Repr

/-- The last code point of the basic plane. -/
def basicPlane : Nat := 0xFFFF

/-- A small form is among those a member of a class stands for. Outside the basic plane a
    single member stands for itself only, and a range is tried with either form. -/
def ClassItem.accepts (folding : Folding) (c : Char) : ClassItem → Bool
  | .char n =>
    let small := folding.fold n
    if folding != .none && small > basicPlane then c.toNat == n
    else (folding.alike c.toNat).contains small
  | .range lo hi =>
    if folding == .none then lo ≤ c.toNat && c.toNat ≤ hi
    else
      ((folding.alike c.toNat).flatMap folding.sources).any
          (fun n => n ≤ basicPlane && lo ≤ n && n ≤ hi) ||
        (hi > basicPlane &&
          ((lo ≤ c.toNat && c.toNat ≤ hi) ||
            (let big := shifted upperRuns c.toNat
             lo ≤ big && big ≤ hi)))
  | .kind k negated ascii => (k.contains ascii c) != negated

/-- What is asked of a character. -/
inductive CharTest
  /-- The character is a given one. -/
  | char (n : Nat)
  /-- The character is not a given one. -/
  | notChar (n : Nat)
  /-- The character belongs to a class, or does not. -/
  | oneOf (items : List ClassItem) (negated : Bool)
  /-- Any character but a line feed. -/
  | anyInLine
  /-- Any character at all. -/
  | any
deriving DecidableEq, Repr

/-- A character is a given one, up to case. -/
def Folding.same (folding : Folding) (c : Char) (n : Nat) : Bool :=
  (folding.alike (folding.fold c.toNat)).contains (folding.fold n)

/-- A character passes a test. -/
def CharTest.accepts (folding : Folding) (c : Char) : CharTest → Bool
  | .char n => folding.same c n
  | .notChar n => !folding.same c n
  | .oneOf items negated =>
    let small := if folding == .none then c else Char.ofNat (folding.fold c.toNat)
    items.any (fun i => i.accepts folding small) != negated
  | .anyInLine => c != '\n'
  | .any => true

end Pattern

end CodeAudit
