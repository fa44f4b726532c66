import PageSweep.Text.Numeral
import PageSweep.Text.Pieces

/-!
# IPv4 Addresses

An address is four octets, written in decimal with points between them. The
strict form has no leading zeros.

## Main definitions

* `Ipv4`: Four octets.
* `Ipv4.read?`: Reading the strict form.
* `Ipv4.text`: Writing it.
* `Ipv4.ofNat`: The address of a 32-bit number.
-/

namespace PageSweep

/-- An IPv4 address. -/
structure Ipv4 where
  a : UInt8
  b : UInt8
  c : UInt8
  d : UInt8
  deriving DecidableEq, Repr

namespace Ipv4

/-- An octet in decimal, without leading zeros. -/
def octet? (digits : List Char) : Option UInt8 :=
  if digits.isEmpty ∨ 3 < digits.length ∨ !digits.all Char.isDigit then none
  else if digits.head? = some '0' ∧ 1 < digits.length then none
  else
    let n := Numeral.decimal digits
    if n < 256 then some (UInt8.ofNat n) else none

/-- The address of four decimal octets with points between them. -/
def read? (text : List Char) : Option Ipv4 :=
  match Text.pieces (· = '.') text with
  | [a, b, c, d] => do return ⟨← octet? a, ← octet? b, ← octet? c, ← octet? d⟩
  | _ => none

/-- The address whose octets are the base-256 digits of `n`. -/
def ofNat (n : Nat) : Ipv4 :=
  ⟨UInt8.ofNat (n / 0x1000000), UInt8.ofNat (n / 0x10000), UInt8.ofNat (n / 0x100), UInt8.ofNat n⟩

/-- Four decimal octets with points between them. -/
def text (address : Ipv4) : String :=
  ".".intercalate [toString address.a.toNat, toString address.b.toNat,
    toString address.c.toNat, toString address.d.toNat]

end Ipv4

end PageSweep
