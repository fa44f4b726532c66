import PageSweep.Net.Ipv6

/-!
# Socket Addresses

An IP address and a port: `10.0.0.1:80`, `[::1]:80`, or `[fe80::1%4]:80` with a
zone number. A zone of zero is not written.

## Main definitions

* `SocketAddr`: An address to listen on.
* `SocketAddr.read?`: Reading one.
* `SocketAddr.text`: Writing one.
-/

namespace PageSweep

/-- An address to listen on. -/
inductive SocketAddr where
  | v4 (address : Ipv4) (port : UInt16)
  | v6 (address : Ipv6) (zone : UInt32) (port : UInt16)

namespace SocketAddr

/-- A decimal number below `bound`; leading zeros are allowed. -/
def number? (bound : Nat) (digits : List Char) : Option Nat :=
  if digits.isEmpty ∨ !digits.all Char.isDigit then none
  else
    let n := Numeral.decimal digits
    if n < bound then some n else none

/-- A port in decimal. -/
def port? (digits : List Char) : Option UInt16 :=
  (number? 0x10000 digits).map UInt16.ofNat

/-- An IPv6 address with an optional zone number after a percent sign. -/
def zoned? (text : List Char) : Option (Ipv6 × UInt32) :=
  match Text.cut? '%' text with
  | none => (Ipv6.read? text).map (·, 0)
  | some (address, zone) => do
    return (← Ipv6.read? address, UInt32.ofNat (← number? 0x100000000 zone))

/-- The socket address that a text writes. -/
def read? : List Char → Option SocketAddr
  | '[' :: text => do
    let (inside, rest) ← Text.cut? ']' text
    let (address, zone) ← zoned? inside
    match rest with
    | ':' :: port => return .v6 address zone (← port? port)
    | _ => none
  | text => do
    let (address, port) ← Text.cut? ':' text
    return .v4 (← Ipv4.read? address) (← port? port)

/-- The text of a socket address. -/
def text : SocketAddr → String
  | .v4 address port => address.text ++ ":" ++ toString port.toNat
  | .v6 address zone port =>
    "[" ++ address.mappedText ++ (if zone = 0 then "" else "%" ++ toString zone.toNat) ++ "]:" ++
      toString port.toNat

end SocketAddr

end PageSweep
