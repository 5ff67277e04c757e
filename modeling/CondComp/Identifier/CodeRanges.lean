/-!
# Sets of code points

A set of characters is given by the inclusive ranges of its code points, in increasing order.

* `CodeRanges`, `CodeRanges.contains`.
-/

namespace CondComp

/-- Inclusive ranges of code points, in increasing order. -/
abbrev CodeRanges : Type := List (Nat × Nat)

/-- The code point of `c` lies in one of the ranges. -/
def CodeRanges.contains (ranges : CodeRanges) (c : Char) : Bool :=
  ranges.any fun r => r.1 ≤ c.toNat && c.toNat ≤ r.2

end CondComp
