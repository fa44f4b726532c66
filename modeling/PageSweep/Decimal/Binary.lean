/-!
# Floating-Point Numbers Taken Apart

A finite double is a whole number times a power of two. `Decimal.Binary` is that
pair, read off the 64 bits: one sign bit, eleven exponent bits and 52 bits of
mantissa, to which a number in the normal range adds a leading bit.

## Main definitions

* `Decimal.Binary`: A double as an infinity, a NaN or an exact value.
* `Decimal.binary`: Reading the value off the bits.
* `Decimal.wholePart`: The largest whole number not above a magnitude.
-/

namespace PageSweep

namespace Decimal

/-- What a double stands for. A finite one is `mantissa * 2 ^ exponent`, taken
negatively if `negative`. -/
inductive Binary where
  /-- No number. -/
  | nan
  /-- Beyond every finite number. -/
  | infinite (negative : Bool)
  /-- An exact value. -/
  | finite (negative : Bool) (mantissa : Nat) (exponent : Int)
  deriving DecidableEq, Repr

/-- The value of a double. -/
def binary (x : Float) : Binary :=
  let bits := x.toBits.toNat
  let negative := decide (0x8000000000000000 ≤ bits)
  let scale : Nat := bits / 0x10000000000000 % 0x800
  let fraction : Nat := bits % 0x10000000000000
  if scale = 2047 then if fraction = 0 then .infinite negative else .nan
  else if scale = 0 then .finite negative fraction (-1074)
  else .finite negative (0x10000000000000 + fraction) ((scale : Int) - 1075)

/-- Whether a double is neither infinite nor a NaN. -/
def isFinite (x : Float) : Bool :=
  match binary x with
  | .finite .. => true
  | _ => false

/-- The magnitude `mantissa * 2 ^ exponent` as a quotient of whole numbers. -/
def quotient (mantissa : Nat) (exponent : Int) : Nat × Nat :=
  if 0 ≤ exponent then (mantissa * Nat.pow 2 exponent.toNat, 1)
  else (mantissa, Nat.pow 2 (-exponent).toNat)

/-- The largest whole number not above `mantissa * 2 ^ exponent`. -/
def wholePart (mantissa : Nat) (exponent : Int) : Nat :=
  let (num, den) := quotient mantissa exponent
  num / den

/-- The largest whole-numbered double not above a positive double; other doubles
stay as they are. -/
def floor (x : Float) : Float :=
  match binary x with
  | .finite false mantissa exponent => Float.ofNat (wholePart mantissa exponent)
  | _ => x

end Decimal

end PageSweep
