import PageSweep.Net.Ipv6
import PageSweep.Url.Domain
import PageSweep.Url.Fault

/-!
# Hosts

The host of a URL is a name or an IP address. The schemes of the web take domain
names, in their ASCII form and with percent encoding undone; a name whose last label
is a number is an IPv4 address in any of its historic spellings (`0x7f.1`). Other
schemes take any text without delimiters.

## Main definitions

* `Url.Host`: A name or an address.
* `Url.Host.readDomain`: The host of a web scheme.
* `Url.Host.readAny`: The host of another scheme.
* `Url.Host.text`: Writing a host.
-/

namespace PageSweep

namespace Url

/-- A host. An empty name stands for no host. -/
inductive Host where
  | name (text : String)
  | ipv4 (address : Ipv4)
  | ipv6 (address : Ipv6)

namespace Host

/-- What a historic number in an IPv4 address is. -/
inductive Part where
  | value (n : Nat)
  /-- A number of more than 32 bits. -/
  | tooLarge

/-- The number of digits in one base. -/
def part? (base : Nat) (digits : List Char) : Option Part :=
  match digits.mapM fun c => (Numeral.digit? c).filter (· < base) with
  | none => none
  | some values =>
    let n := values.foldl (fun n d => n * base + d) 0
    some (if n < 0x100000000 then .value n else .tooLarge)

/-- A number in decimal, in octal after `0` or in hexadecimal after `0x`. Nothing
after `0x` is zero. -/
def number? : List Char → Option Part
  | [] => none
  | '0' :: 'x' :: digits => part? 16 digits
  | '0' :: 'X' :: digits => part? 16 digits
  | '0' :: d :: digits => part? 8 (d :: digits)
  | digits => part? 10 digits

/-- The labels of a domain name; an empty one after a final point is left out. -/
def labels (domain : List Char) : List (List Char) :=
  let parts := Text.pieces (· = '.') domain
  if parts.getLast? = some [] then parts.dropLast else parts

/-- Whether the last label of a domain name is a number. -/
def endsInNumber (domain : List Char) : Bool :=
  match (labels domain).getLast? with
  | none => false
  | some last => (!last.isEmpty && last.all Char.isDigit) || (number? last).isSome

/-- The address of one to four numbers: each but the last is an octet, and the
last fills the octets that remain. -/
def address? (parts : List Nat) : Option Ipv4 :=
  match parts.reverse with
  | [] => none
  | last :: octets =>
    if 3 < octets.length ∨ octets.any (255 < ·) ∨ Nat.pow 256 (4 - octets.length) ≤ last then none
    else
      let high := octets.reverse.foldl (fun n octet => n * 256 + octet) 0
      some (Ipv4.ofNat (high * Nat.pow 256 (4 - octets.length) + last))

/-- The IPv4 address that a name ending in a number spells. -/
def readNumbers (domain : List Char) : Except Fault Host :=
  let value? (label : List Char) : Option Nat := match number? label with
    | some (.value n) => some n
    | _ => none
  match ((labels domain).mapM value?).bind address? with
  | some address => .ok (.ipv4 address)
  | none => .error .ipv4

/-- An IPv6 address between brackets, after the opening one. -/
def readBracketed (text : List Char) : Except Fault Host :=
  match text.reverse with
  | ']' :: inside =>
    match Ipv6.read? inside.reverse with
    | some address => .ok (.ipv6 address)
    | none => .error .ipv6
  | _ => .error .ipv6

/-- The host of a web scheme. -/
def readDomain (idna : Idna) (text : List Char) : Except Fault Host :=
  match text with
  | '[' :: inside => readBracketed inside
  | _ =>
    match Domain.form? idna (Utf8.lossy ⟨(Percent.decode text).toArray⟩) with
    | none => .error .domainName
    | some domain =>
      if domain.isEmpty then .error .emptyHost
      else if endsInNumber domain.toList then readNumbers domain.toList
      else .ok (.name domain)

/-- Characters that delimit parts of a URL and so cannot stand in a host. -/
def delimits (c : Char) : Bool :=
  "\x00\t\n\r #/:<>?@[\\]^|".toList.contains c

/-- The host of a scheme outside the web. -/
def readAny (text : List Char) : Except Fault Host :=
  match text with
  | '[' :: inside => readBracketed inside
  | _ =>
    if text.any delimits then .error .hostCharacter
    else .ok (.name (String.ofList (Percent.encode Percent.visible text)))

/-- The text of a host. -/
def text : Host → String
  | .name text => text
  | .ipv4 address => address.text
  | .ipv6 address => "[" ++ address.text ++ "]"

/-- Whether there is no host. -/
def isEmpty : Host → Bool
  | .name text => text.isEmpty
  | _ => false

end Host

end Url

end PageSweep
