import PageSweep.Decimal.Fixed
import PageSweep.Text.Numeral
import PageSweep.Time.Calendar

/-!
# Instants

An instant is counted in nanoseconds from the start of 1970 in UTC. The calendar
covers the years -9999 to 9999. An instant is written in UTC to the millisecond,
`2024-05-01T12:00:00.000Z`; the part of a millisecond is dropped. Years have four
digits and a minus sign before year 0.

## Main definitions

* `Instant`: An instant of the calendar.
* `Instant.ofNanos?`: The instant of a count.
* `Instant.text`: Writing an instant.
* `Instant.readMillis?`: The milliseconds that a written instant counts.
-/

namespace PageSweep

namespace Instant

/-- The nanoseconds of a day. -/
def dayNanos : Int := 86400 * 1000000000

/-- The first instant of the calendar. -/
def first : Int := Date.number ⟨-9999, 1, 1⟩ * dayNanos

/-- The last instant of the calendar. -/
def last : Int := Date.number ⟨10000, 1, 1⟩ * dayNanos - 1

/-- Whether the calendar has the instant of a count. -/
def Covered (nanos : Int) : Prop := first ≤ nanos ∧ nanos ≤ last

instance (nanos : Int) : Decidable (Covered nanos) :=
  inferInstanceAs (Decidable (_ ∧ _))

end Instant

/-- An instant of the calendar. -/
structure Instant where
  nanos : Int
  covered : Instant.Covered nanos

namespace Instant

/-- Why a count is no instant. -/
inductive Fault where
  | range
  deriving DecidableEq, Repr

/-- The wording of a fault. -/
def Fault.message : Fault → String
  | .range => "timestamp was not in range"

/-- The instant of a count of nanoseconds. -/
def ofNanos (nanos : Int) : Except Fault Instant :=
  if h : Covered nanos then .ok ⟨nanos, h⟩ else .error .range

/-- A year with at least four digits. -/
def yearText (year : Int) : String :=
  (if year < 0 then "-" else "") ++ Decimal.padded 4 year.natAbs

/-- A date as `2024-05-01`. -/
def dateText (date : Date) : String :=
  yearText date.year ++ "-" ++ Decimal.padded 2 date.month ++ "-" ++ Decimal.padded 2 date.day

/-- The milliseconds of a day as `12:00:00.000`. -/
def clockText (millis : Nat) : String :=
  Decimal.padded 2 (millis / 3600000) ++ ":" ++ Decimal.padded 2 (millis / 60000 % 60) ++ ":" ++
    Decimal.padded 2 (millis / 1000 % 60) ++ "." ++ Decimal.padded 3 (millis % 1000)

/-- The text of a count of nanoseconds. -/
def textOf (nanos : Int) : String :=
  dateText (Date.ofNumber (nanos / dayNanos)) ++ "T" ++
    clockText (nanos % dayNanos / 1000000).toNat ++ "Z"

/-- The text of an instant. -/
def text (instant : Instant) : String :=
  textOf instant.nanos

/-- The value of digits and nothing else. -/
def field? (digits : List Char) : Option Nat :=
  if digits.all Char.isDigit then some (Numeral.decimal digits) else none

/-- The milliseconds from the start of 1970 that a text of the 24-character form
counts. -/
def readMillis? (text : List Char) : Option Int :=
  match text with
  | [y₁, y₂, y₃, y₄, '-', m₁, m₂, '-', d₁, d₂, 'T', h₁, h₂, ':', n₁, n₂, ':', s₁, s₂, '.',
      f₁, f₂, f₃, 'Z'] => do
    let date : Date := ⟨← field? [y₁, y₂, y₃, y₄], ← field? [m₁, m₂], ← field? [d₁, d₂]⟩
    let hour ← field? [h₁, h₂]
    let minute ← field? [n₁, n₂]
    let second ← field? [s₁, s₂]
    let millis ← field? [f₁, f₂, f₃]
    if date.Valid ∧ hour < 24 ∧ minute < 60 ∧ second < 60 then
      some (date.number * 86400000 +
        (((hour * 60 + minute) * 60 + second) * 1000 + millis : Nat))
    else none
  | _ => none

end Instant

end PageSweep
