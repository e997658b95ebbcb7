/-!
# Ranges of code points

Properties of characters that a standard lists as ranges of code points, both ends included.
-/

namespace QueryLint

/-- A range of code points, both ends included. -/
abbrev CodeRange := Nat × Nat

/-- Whether a character lies in one of the ranges. -/
def inRanges (ranges : List CodeRange) (c : Char) : Bool :=
  ranges.any fun r => r.1 ≤ c.toNat && c.toNat ≤ r.2

end QueryLint
