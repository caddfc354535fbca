import CodeAudit.Pattern.CharTest

/-!
# Patterns

The tree of a regular expression.

A tree says what it looks for and nothing about how it was written: switches such as
ignoring case have been worked into the tests and anchors they govern. Groups that
remember what they matched are numbered from one.

## Main definitions

* `Pattern.Anchor`: A condition on a place in a text.
* `Pattern.Greed`: In which order a repetition tries its numbers.
* `Pattern.Node`: A tree.
* `Pattern.Width`: The least and the greatest length of what a tree matches.
* `Pattern.Node.width`: The width of a tree.
-/

namespace CodeAudit

namespace Pattern

/-- A condition on a place in a text. -/
inductive Anchor
  | textStart
  | lineStart
  | textEnd
  | lineEnd
  /-- The end of the text, or the place before a line feed that ends it. -/
  | finalEnd
  /-- A place between a word character and another one, or not such a place. -/
  | wordEdge (negated ascii : Bool)
deriving DecidableEq, Repr

/-- In which order a repetition tries its numbers: the greatest first, the least first, or
    the greatest only. -/
inductive Greed
  | greedy
  | lazy
  | possessive
deriving DecidableEq, Repr

/-- The tree of a regular expression. -/
inductive Node
  /-- A character. -/
  | one (folding : Folding) (test : CharTest)
  | anchor (a : Anchor)
  | sequence (items : List Node)
  | choice (options : List Node)
  /-- A group that remembers what it matched. -/
  | group (index : Nat) (body : Node)
  /-- What a group matched, once more. -/
  | again (folding : Folding) (index : Nat)
  /-- What stands ahead, or behind at a distance, without moving. -/
  | look (behind : Option Nat) (negated : Bool) (body : Node)
  /-- The first way to match only. -/
  | atomic (body : Node)
  /-- One of two trees, according to whether a group has matched. -/
  | ifGroup (index : Nat) (yes no : Node)
  | loop (greed : Greed) (least : Nat) (most : Option Nat) (body : Node)
deriving Inhabited, Repr

/-- The least and the greatest length of what a tree matches. -/
structure Width where
  least : Nat
  greatest : Nat
deriving DecidableEq, Repr

namespace Width

/-- A length beyond that of any text, at which widths are cut off. -/
def limit : Nat := Nat.pow 2 64

/-- A width cut off at the limit. -/
def capped (w : Width) : Width :=
  ⟨min w.least limit, min w.greatest limit⟩

/-- The width of one thing behind another. -/
def add (a b : Width) : Width :=
  ⟨a.least + b.least, a.greatest + b.greatest⟩

/-- The width of one thing or another. -/
def join (a b : Width) : Width :=
  ⟨min a.least b.least, max a.greatest b.greatest⟩

/-- The width of a repetition. -/
def times (w : Width) (least : Nat) (most : Option Nat) : Width :=
  match most with
  | some n => ⟨w.least * least, w.greatest * n⟩
  | none => ⟨w.least * least, if w.greatest == 0 then 0 else limit⟩

end Width

/-- The widths of the groups that are closed, by their numbers. -/
abbrev GroupWidths := List (Nat × Width)

mutual

/-- The width of a tree, given the widths of the groups it refers to. -/
def Node.width (groups : GroupWidths) : Node → Width
  | .one _ _ => ⟨1, 1⟩
  | .anchor _ => ⟨0, 0⟩
  | .sequence items => (sequenceWidth groups items).capped
  | .choice options => (choiceWidth groups options).capped
  | .group _ body => body.width groups
  | .again _ index => (groups.lookup index).getD ⟨0, 0⟩
  | .look _ _ _ => ⟨0, 0⟩
  | .atomic body => body.width groups
  | .ifGroup _ yes no => (yes.width groups).join (no.width groups)
  | .loop _ least most body => (body.width groups).times least most |>.capped

/-- The width of trees one behind the other. -/
def sequenceWidth (groups : GroupWidths) : List Node → Width
  | [] => ⟨0, 0⟩
  | n :: rest => (n.width groups).add (sequenceWidth groups rest)

/-- The width of one of several trees. -/
def choiceWidth (groups : GroupWidths) : List Node → Width
  | [] => ⟨Width.limit, 0⟩
  | n :: rest => (n.width groups).join (choiceWidth groups rest)

end

end Pattern

end CodeAudit
