import PageSweep.Net.Ipv4

/-!
# IPv6 Addresses

An address is eight groups of 16 bits, written in hexadecimal with colons between
them. Once, `::` may stand for one or more groups that are zero, and the last two
groups may be written as an IPv4 address.

In writing, the longest run of at least two zero groups becomes `::`, the first
one of several equally long.

## Main definitions

* `Ipv6`: Eight groups.
* `Ipv6.read?`: Reading an address.
* `Ipv6.text`: Writing it in groups.
* `Ipv6.mappedText`: Writing it with an embedded IPv4 address shown as such.
-/

namespace PageSweep

/-- An IPv6 address. -/
structure Ipv6 where
  groups : List UInt16
  size : groups.length = 8

namespace Ipv6

/-- A group of one to four hexadecimal digits. -/
def group? (digits : List Char) : Option UInt16 :=
  if digits.isEmpty ∨ 4 < digits.length then none
  else (digits.mapM Numeral.digit?).map fun values =>
    UInt16.ofNat (values.foldl (fun n d => n * 16 + d) 0)

/-- The two groups of an IPv4 address. -/
def ofIpv4 (address : Ipv4) : List UInt16 :=
  [UInt16.ofNat (address.a.toNat * 256 + address.b.toNat),
    UInt16.ofNat (address.c.toNat * 256 + address.d.toNat)]

/-- The groups of pieces between colons. If `last` holds, the last piece may be an
IPv4 address. -/
def groups? (last : Bool) : List (List Char) → Option (List UInt16)
  | [] => some []
  | [piece] =>
    match group? piece with
    | some g => some [g]
    | none => if last then (Ipv4.read? piece).map ofIpv4 else none
  | piece :: rest => do return (← group? piece) :: (← groups? last rest)

/-- One side of a `::`, or a text without one; an empty side has no groups. -/
def side? (last : Bool) (text : List Char) : Option (List UInt16) :=
  if text.isEmpty then some [] else groups? last (Text.pieces (· = ':') text)

/-- The address of eight groups. -/
def ofGroups? (groups : List UInt16) : Option Ipv6 :=
  if h : groups.length = 8 then some ⟨groups, h⟩ else none

/-- The address that a text writes. -/
def read? (text : List Char) : Option Ipv6 :=
  match Text.cutPair? ':' ':' text with
  | none => (groups? true (Text.pieces (· = ':') text)).bind ofGroups?
  | some (before, after) => do
    let before ← side? false before
    let after ← side? true after
    if before.length + after.length < 8 then
      ofGroups? (before ++ List.replicate (8 - before.length - after.length) 0 ++ after)
    else none

/-- The length of the run of zeros at the front. -/
def zeroRun (groups : List UInt16) : Nat :=
  (groups.takeWhile (· == 0)).length

/-- The place and the length of the first longest run of zeros. -/
def longestRun : List UInt16 → Nat × Nat
  | [] => (0, 0)
  | g :: rest =>
    let here := zeroRun (g :: rest)
    let (place, length) := longestRun rest
    if length ≤ here then (0, here) else (place + 1, length)

/-- A group in hexadecimal, without leading zeros. -/
def groupText (g : UInt16) : String :=
  String.ofList (Nat.toDigits 16 g.toNat)

/-- Groups with colons between them. -/
def groupsText (groups : List UInt16) : String :=
  ":".intercalate (groups.map groupText)

/-- The address in groups. -/
def text (address : Ipv6) : String :=
  let (place, length) := longestRun address.groups
  if length < 2 then groupsText address.groups
  else groupsText (address.groups.take place) ++ "::" ++
    groupsText (address.groups.drop (place + length))

/-- The address in groups, an embedded IPv4 address in its own form. -/
def mappedText (address : Ipv6) : String :=
  match address.groups with
  | [0, 0, 0, 0, 0, 0xFFFF, g, h] => "::ffff:" ++ (Ipv4.ofNat (g.toNat * 0x10000 + h.toNat)).text
  | _ => address.text

end Ipv6

end PageSweep
