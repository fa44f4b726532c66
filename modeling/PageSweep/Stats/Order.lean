/-!
# The Total Order of Doubles

Doubles are put in order by their bits: negative ones by falling magnitude, then
positive ones by rising magnitude. So -0.0 comes before 0.0, and what is not finite
stands at the ends.

## Main definitions

* `Stats.rank`: The place of a double in the order.
* `Stats.sorted`: A series in order.
-/

namespace PageSweep

namespace Stats

/-- The place of a double in the order. -/
def rank (x : Float) : Nat :=
  let bits := x.toBits.toNat
  if bits < 0x8000000000000000 then 0x8000000000000000 + bits else 0x10000000000000000 - 1 - bits

/-- A series in order. -/
def sorted (values : List Float) : List Float :=
  values.mergeSort fun x y => rank x ≤ rank y

end Stats

end PageSweep
