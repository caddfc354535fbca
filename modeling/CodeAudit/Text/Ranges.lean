/-!
# Ranges of Code Points

A set of characters given as a list of ranges.

Every character class of the library that is not a matter of a handful of
ASCII characters is a property of the Unicode character database, and such a
property is a long list of ranges. `CodeRanges` is that list, kept in ascending
order so that the search can stop at the first range above the code point it is
looking for.

## Main definitions

* `CodeRanges`: Closed ranges of code points, in ascending order.
* `CodeRanges.contains`: Membership of a code point.
-/

namespace CodeAudit

/-- Closed ranges of code points, in ascending order. -/
abbrev CodeRanges := List (Nat × Nat)

namespace CodeRanges

/-- Whether a code point lies in one of the ranges. The search ends at the
    first range that starts above the code point. -/
def contains : CodeRanges → Nat → Bool
  | [], _ => false
  | (lo, hi) :: rest, n => if n < lo then false else n ≤ hi || contains rest n

end CodeRanges

end CodeAudit
