import PageSweep.Decimal.Binary

/-!
# Fixed Places

Amounts in a report are written with a fixed number of places. The exact value
of the double is rounded to the nearest such decimal; a value halfway between two
goes to the one with an even last digit. There is never an exponent, and a
negative number that rounds to zero keeps its sign.

## Main definitions

* `Decimal.roundDiv`: A quotient rounded to the nearest whole number.
* `Decimal.fixed`: A double with a fixed number of places.
-/

namespace PageSweep

namespace Decimal

/-- `num / den` rounded to the nearest whole number, a half to the even one. -/
def roundDiv (num den : Nat) : Nat :=
  let n := num / den
  let rest := num % den
  if den < 2 * rest ∨ (den = 2 * rest ∧ n % 2 = 1) then n + 1 else n

/-- The digits of `n`, with zeros in front up to `width` of them. -/
def padded (width n : Nat) : String :=
  let digits := toString n
  String.ofList (List.replicate (width - digits.length) '0') ++ digits

/-- A number of units of `10 ^ (-places)`, written with its point. -/
def pointed (places units : Nat) : String :=
  toString (units / Nat.pow 10 places) ++ "." ++ padded places (units % Nat.pow 10 places)

/-- A double with `places` places. -/
def fixed (places : Nat) (x : Float) : String :=
  match binary x with
  | .nan => "NaN"
  | .infinite negative => if negative then "-inf" else "inf"
  | .finite negative mantissa exponent =>
    let (num, den) := quotient mantissa exponent
    (if negative then "-" else "") ++ pointed places (roundDiv (num * Nat.pow 10 places) den)

end Decimal

end PageSweep
