/-!
# Numbers to Compute With

The digest of a series uses the four operations, an order and the whole numbers.
`Arith` is that much of a number system, so that the digest computes with doubles
when it runs and with exact numbers when it is reasoned about.

## Main definitions

* `Arith`: The operations.
-/

namespace PageSweep

/-- The operations that the digest uses. -/
class Arith (α : Type) extends Add α, Sub α, Mul α, Div α, LE α where
  /-- Whether the first number is not above the second. -/
  atMost : (x y : α) → Decidable (x ≤ y)
  /-- A whole number. -/
  ofNat : Nat → α

namespace Arith

instance {α : Type} [Arith α] (x y : α) : Decidable (x ≤ y) :=
  Arith.atMost x y

/-- Half of a number. -/
def half {α : Type} [Arith α] (x : α) : α :=
  x / ofNat 2

end Arith

instance : Arith Float where
  atMost := fun x y => inferInstanceAs (Decidable (x ≤ y))
  ofNat := Float.ofNat

end PageSweep
