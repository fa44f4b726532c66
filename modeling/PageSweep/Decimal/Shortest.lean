import PageSweep.Decimal.Binary

/-!
# Shortest Decimals

The decimal written for a double is the shortest one that reads back to it, and
of several equally short ones the nearest to its exact value.

Every real in a certain interval around a double rounds to it. The interval ends
halfway to the two neighbouring doubles, and its ends belong to it exactly if the
mantissa is even. Below a power of two the neighbour is nearer, so the lower half
is half as wide there. The grid of the decimals with `n` digits has at most two
points next to the exact value, one on either side; the first `n` for which one
of them lies in the interval is the least number of digits, and 17 always do.

## Main definitions

* `Decimal.Digits`: A decimal as a whole number times a power of ten.
* `Decimal.shortest`: The shortest decimal that reads back.
-/

namespace PageSweep

namespace Decimal

/-- The decimal `coefficient * 10 ^ exponent`. -/
structure Digits where
  coefficient : Nat
  exponent : Int
  deriving DecidableEq, Repr

/-- How many digits a whole number is written with. -/
def digitCount (n : Nat) : Nat :=
  if n < 10 then 1 else digitCount (n / 10) + 1

/-- The power of ten of the leading digit of `num / den`. -/
def leadingExponent (num den : Nat) : Int :=
  if den ≤ num then digitCount (num / den) - 1
  else -(digitCount ((den - 1) / num))

/-- The same decimal without final zeros in its coefficient. -/
def Digits.trim (d : Digits) : Digits :=
  if h : d.coefficient ≠ 0 ∧ d.coefficient % 10 = 0 then
    Digits.trim ⟨d.coefficient / 10, d.exponent + 1⟩
  else d
termination_by d.coefficient

/-- The interval of quotients that round to one double, with its exact value, all
over one denominator. -/
structure Interval where
  low : Nat
  exact : Nat
  high : Nat
  den : Nat
  /-- Whether the two ends belong to the interval. -/
  closed : Bool

/-- The interval that rounds to the double `mantissa * 2 ^ exponent`. -/
def Interval.around (mantissa : Nat) (exponent : Int) : Interval :=
  let (num, den) := quotient 1 (exponent - 2)
  let below := if mantissa = 0x10000000000000 ∧ -1074 < exponent then 1 else 2
  ⟨(4 * mantissa - below) * num, 4 * mantissa * num, (4 * mantissa + 2) * num, den,
    mantissa % 2 = 0⟩

/-- Whether `num / den` lies in the interval. -/
def Interval.contains (i : Interval) (num den : Nat) : Bool :=
  if i.closed then i.low * den ≤ num * i.den && num * i.den ≤ i.high * den
  else i.low * den < num * i.den && num * i.den < i.high * den

/-- The decimal on the grid of `10 ^ place` that lies in the interval next to the
exact value: the nearer one of two, the even one of two equally near. -/
def Interval.onGrid (i : Interval) (place : Int) : Option Digits :=
  let scaleUp := Nat.pow 10 (-place).toNat
  let scaleDown := Nat.pow 10 place.toNat
  let num := i.exact * scaleUp
  let den := i.den * scaleDown
  let n := num / den
  let holds (n : Nat) := i.contains (n * scaleDown) scaleUp
  let up := den < 2 * (num % den) || (den = 2 * (num % den) && n % 2 = 1)
  match holds n, holds (n + 1) with
  | true, true => some ⟨if up then n + 1 else n, place⟩
  | true, false => some ⟨n, place⟩
  | false, true => some ⟨n + 1, place⟩
  | false, false => none

/-- The first hit on the grids from `place` downward. -/
def Interval.search (i : Interval) : Nat → Int → Option Digits
  | 0, _ => none
  | tries + 1, place => (i.onGrid place).or (i.search tries (place - 1))

/-- The shortest decimal that reads back to the double `mantissa * 2 ^ exponent`. -/
def shortest (mantissa : Nat) (exponent : Int) : Digits :=
  if mantissa = 0 then ⟨0, 0⟩
  else
    let i := Interval.around mantissa exponent
    ((i.search 17 (leadingExponent i.exact i.den)).getD ⟨i.exact / i.den, 0⟩).trim

end Decimal

end PageSweep
