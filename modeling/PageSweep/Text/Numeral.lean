/-!
# Numerals

Whole numbers in base ten or sixteen. A numeral for a machine word may begin with
a plus sign; its digits are read from the left, and reading stops at the first
character that is no digit or at the first digit that makes the number too large,
whichever comes first.

## Main definitions

* `Numeral.digit?`: The value of a digit, in either case.
* `Numeral.lower`, `Numeral.upper`: The digit of a value.
* `Numeral.decimal`: The value of decimal digits.
* `Numeral.read`: The value of a numeral below a bound.
* `Numeral.Fault`: Why a numeral is refused.
-/

namespace PageSweep

namespace Numeral

/-- The value of a digit of base sixteen, in either case. -/
def digit? (c : Char) : Option Nat :=
  if '0' ≤ c ∧ c ≤ '9' then some (c.toNat - '0'.toNat)
  else if 'a' ≤ c ∧ c ≤ 'f' then some (c.toNat - 'a'.toNat + 10)
  else if 'A' ≤ c ∧ c ≤ 'F' then some (c.toNat - 'A'.toNat + 10)
  else none

/-- The digit of a value below 16, in lower case. -/
def lower (n : Nat) : Char :=
  if n < 10 then Char.ofNat ('0'.toNat + n) else Char.ofNat ('a'.toNat + (n - 10))

/-- The digit of a value below 16, in upper case. -/
def upper (n : Nat) : Char :=
  if n < 10 then Char.ofNat ('0'.toNat + n) else Char.ofNat ('A'.toNat + (n - 10))

/-- The value of decimal digits. -/
def decimal (digits : List Char) : Nat :=
  digits.foldl (fun n c => n * 10 + (c.toNat - '0'.toNat)) 0

/-- Why a numeral is refused. -/
inductive Fault where
  | empty
  | invalidDigit
  | tooLarge
  deriving DecidableEq, Repr

/-- The wording of a refusal. -/
def Fault.message : Fault → String
  | .empty => "cannot parse integer from empty string"
  | .invalidDigit => "invalid digit found in string"
  | .tooLarge => "number too large to fit in target type"

/-- Reads on from the value `n` of the digits so far. -/
def extend (base bound : Nat) (n : Nat) : List Char → Except Fault Nat
  | [] => .ok n
  | c :: rest =>
    match digit? c with
    | none => .error .invalidDigit
    | some d =>
      if base ≤ d then .error .invalidDigit
      else if n * base + d < bound then extend base bound (n * base + d) rest
      else .error .tooLarge

/-- The value of a numeral, which has to be below `bound`. -/
def read (base bound : Nat) : List Char → Except Fault Nat
  | [] => .error .empty
  | ['+'] => .error .invalidDigit
  | '+' :: digits => extend base bound 0 digits
  | digits => extend base bound 0 digits

end Numeral

end PageSweep
