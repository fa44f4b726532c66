import PageSweep.Decimal.Shortest

/-!
# Positional and Scientific Text

A decimal is written positionally (`0.001`, `120.0`) or with an exponent
(`1.5e-7`). A `Style` says for which exponents of the leading digit each form is
used.

## Main definitions

* `Decimal.Style`: Where the positional form begins and ends.
* `Decimal.text`: A finite double in a style.
-/

namespace PageSweep

namespace Decimal

/-- The leading exponents `low ≤ e < high` are written positionally. A whole
number written so ends in `.0`. -/
structure Style where
  low : Int
  high : Int

/-- Whole digits, a point and the remaining digits, at least one of each. -/
def positional (d : Digits) : String :=
  if 0 ≤ d.exponent then
    toString (d.coefficient * Nat.pow 10 d.exponent.toNat) ++ ".0"
  else
    let places := (-d.exponent).toNat
    let digits := toString d.coefficient
    let digits := String.ofList (List.replicate (places + 1 - digits.length) '0') ++ digits
    let whole := digits.length - places
    String.ofList (digits.toList.take whole) ++ "." ++ String.ofList (digits.toList.drop whole)

/-- One whole digit, the remaining ones after a point if there are any, and a
signed exponent. -/
def scientific (d : Digits) (leading : Int) : String :=
  let mantissa := match (toString d.coefficient).toList with
    | first :: second :: rest => String.ofList (first :: '.' :: second :: rest)
    | single => String.ofList single
  mantissa ++ "e" ++ (if 0 ≤ leading then "+" else "-") ++ toString leading.natAbs

/-- The text of a decimal in a style. -/
def Style.write (style : Style) (d : Digits) : String :=
  let leading := d.exponent + digitCount d.coefficient - 1
  if style.low ≤ leading ∧ leading < style.high then positional d else scientific d leading

/-- The text of a double in a style; there is none for a NaN or an infinity. -/
def text? (style : Style) (x : Float) : Option String :=
  match binary x with
  | .finite negative mantissa exponent =>
    some ((if negative then "-" else "") ++ style.write (shortest mantissa exponent))
  | _ => none

end Decimal

end PageSweep
