/-!
# Ranges of Characters

A class of characters is given by the ranges of its code points.

## Main definitions

* `Text.within`: Whether a character lies in one of some ranges.
-/

namespace PageSweep

namespace Text

/-- Whether a character lies in one of the ranges, each given by its first and its last
code point. -/
def within (ranges : List (Nat × Nat)) (c : Char) : Bool :=
  ranges.any fun (low, high) => low ≤ c.toNat && c.toNat ≤ high

end Text

end PageSweep
