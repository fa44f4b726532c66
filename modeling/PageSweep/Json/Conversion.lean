import PageSweep.Decimal.Binary
import PageSweep.Text.Numeral

/-!
# Decimal Numbers as Doubles

A decimal number is converted in one go and without much care. Its digits are gathered in
a significand of 64 bits, which becomes a double, and that double is multiplied or divided
by one power of ten. So a number is rounded up to three times, and what comes out need not
be the double nearest to it.

A digit that the significand has no room for is not gathered. Such a digit before the
point counts for a zero, and so do all that stand between it and the point. One behind the
point does not count at all, nor does any digit after it.

There are powers of ten up to 10^308. A number that has to be divided by a greater one is
divided more than once, and one that has to be multiplied by a greater one is beyond the
doubles, unless it is zero.

## Main definitions

* `Json.tenTo`: A power of ten as a double.
* `Json.Reader.significand`: The digits that are gathered.
* `Json.Reader.scaled?`: A double times a power of ten.
* `Json.Reader.double?`: The double that a decimal number is converted to.
-/

namespace PageSweep

namespace Json

/-- A power of ten as a double. -/
def tenTo (n : Nat) : Float :=
  Float.ofNat (Nat.pow 10 n)

namespace Reader

/-- Gathers digits behind the number `n` as long as the result has 64 bits, and gives it
back with the digits that are left. -/
def significand (n : Nat) : List Char → Nat × List Char
  | [] => (n, [])
  | c :: rest =>
    let next := n * 10 + (c.toNat - '0'.toNat)
    if next < 0x10000000000000000 then significand next rest else (n, c :: rest)

/-- A double times a power of ten; none if that is beyond the doubles. -/
def scaled? (x : Float) (exponent : Int) : Option Float :=
  if exponent.natAbs ≤ 308 then
    if 0 ≤ exponent then
      let product := x * tenTo exponent.natAbs
      if Decimal.isFinite product then some product else none
    else some (x / tenTo exponent.natAbs)
  else if x == 0.0 then some x
  else if 0 ≤ exponent then none
  else scaled? (x / tenTo 308) (exponent + 308)
termination_by (-exponent).toNat

/-- The double of a decimal number with the given sign, digits before and behind the point,
and exponent; none if it is beyond the doubles. -/
def double? (negative : Bool) (whole fraction : List Char) (exponent : Int) : Option Float :=
  let (n, dropped) := significand 0 whole
  let (n, ignored) := significand n fraction
  let counted := fraction.length - ignored.length
  (scaled? n.toUInt64.toFloat (exponent + dropped.length - counted)).map fun x =>
    if negative then -x else x

end Reader

end Json

end PageSweep
