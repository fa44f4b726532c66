import PageSweep.Text.Numeral

/-!
# Cursors of the Events Service

A cursor names the event with which the next page begins: `evt_` and its number in
hexadecimal, with zeros in front up to eight digits.

## Main definitions

* `Service.encodeCursor`: The cursor of an event.
* `Service.decodeCursor?`: The event of a cursor.
-/

namespace PageSweep

namespace Service

/-- The mark in front of every cursor. -/
def cursorMark : List Char := ['e', 'v', 't', '_']

/-- The cursor of an event. -/
def encodeCursor (offset : UInt64) : String :=
  let digits := Nat.toDigits 16 offset.toNat
  String.ofList (cursorMark ++ List.replicate (8 - digits.length) '0' ++ digits)

/-- The event of a cursor. -/
def decodeCursor? (cursor : String) : Option UInt64 :=
  match cursor.toList with
  | 'e' :: 'v' :: 't' :: '_' :: digits =>
    match Numeral.read 16 0x10000000000000000 digits with
    | .ok n => some (UInt64.ofNat n)
    | .error _ => none
  | _ => none

end Service

end PageSweep
