/-!
# Positive Numbers Below a Bound

Page sizes, page caps and numbers of virtual users are never zero and fit in a
machine word.

## Main definitions

* `Positive`: A positive number below a bound.
* `Positive.ofNat?`: The positive number of a number, if it is one.
-/

namespace PageSweep

/-- A positive number below `bound`. -/
structure Positive (bound : Nat) where
  val : Nat
  pos : 0 < val
  lt : val < bound
  deriving DecidableEq, Repr

namespace Positive

/-- The positive number `n`, if it is one and below the bound. -/
def ofNat? {bound : Nat} (n : Nat) : Option (Positive bound) :=
  if h : 0 < n ∧ n < bound then some ⟨n, h.1, h.2⟩ else none

end Positive

/-- A page size or a page cap. -/
abbrev PageCount := Positive 0x100000000

/-- A number of virtual users. -/
abbrev UserCount := Positive 0x10000000000000000

end PageSweep
