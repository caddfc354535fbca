import CodeAudit.Yaml.Error

/-!
# Supplies of Text

The text that a document is read from.

A text may be there as a whole, or it may be supplied in parts, each of them when it is asked
for. Then the beginning of a text can be at fault before what is wrong further behind comes to
light. So a supply has two sides: the characters that can be had, and what is met when more is
asked for, which is the end of the text or a failure.

Some characters may not stand in any document. A whole text is searched for them beforehand. A
text in parts is searched part by part, so that everything in front of the part with the first of
them can be had.

## Main definitions

* `Yaml.Supply`: The characters that can be had, and what is met behind them.
* `Yaml.Supply.whole`: The supply of a text that is there as a whole.
* `Yaml.Supply.inParts`: The supply of a text that comes in parts.
-/

namespace CodeAudit

namespace Yaml

/-- The characters of a text that can be had, and the failure that is met behind them, or nothing
    where the text ends. -/
structure Supply (ε : Type) where
  chars : List Char
  failure : Option (LoadError ε)

/-- A character may stand in a document. -/
def isAllowed (c : Char) : Bool :=
  let n := c.toNat
  n == 9 || n == 10 || n == 13 || (0x20 ≤ n && n ≤ 0x7E) || n == 0x85 ||
    (0xA0 ≤ n && n ≤ 0xD7FF) || (0xE000 ≤ n && n ≤ 0xFFFD) || 0x10000 ≤ n

/-- The place of the first character that may not stand in a document. -/
def firstForbidden? : Nat → List Char → Option (Char × Nat)
  | _, [] => none
  | n, c :: rest => if isAllowed c then firstForbidden? (n + 1) rest else some (c, n)

/-- The number of characters in a part of a text. -/
def partLength : Nat := 4096

/-- The number of characters in the whole parts of a text. The first two parts are asked for
    together. -/
def wholeParts (n : Nat) : Nat :=
  if n < 2 * partLength then 0 else n / partLength * partLength

namespace Supply

variable {ε : Type}

/-- The supply of a text that is there as a whole. -/
def whole (source : String) (cs : List Char) : Supply ε :=
  match firstForbidden? 0 cs with
  | some (c, n) => ⟨[], some (.malformed (.forbidden source c n))⟩
  | none => ⟨cs, none⟩

/-- The supply of a text that comes in parts, and of the failure behind it if it does not end
    there. A part that ends in a failure cannot be had. -/
def inParts (source : String) (cs : List Char) (failure : Option ε) : Supply ε :=
  let complete := if failure.isSome then cs.take (wholeParts cs.length) else cs
  match firstForbidden? 0 complete with
  | some (c, n) => ⟨complete.take (wholeParts n), some (.malformed (.forbidden source c n))⟩
  | none => ⟨complete, failure.map .cutOff⟩

end Supply

end Yaml

end CodeAudit
