/-!
# The Calendar

Dates of the proleptic Gregorian calendar, counted in days from 1970-01-01. The
count starts a year in March, so that the leap day is the last day of a year and
the months before it repeat a pattern of 153 days in five months.

## Main definitions

* `Date`: A year, a month and a day.
* `Date.number`: The day number of a date.
* `Date.ofNumber`: The date of a day number.
* `Date.Valid`: Whether the calendar has a date.
-/

namespace PageSweep

/-- A date. Year 0 comes before year 1. -/
structure Date where
  year : Int
  month : Nat
  day : Nat
  deriving DecidableEq, Repr

namespace Date

/-- Whether a year has a leap day. -/
def isLeap (year : Int) : Bool :=
  year % 4 = 0 && (year % 100 != 0 || year % 400 = 0)

/-- The number of days of a month. -/
def monthLength (year : Int) (month : Nat) : Nat :=
  if month = 2 then if isLeap year then 29 else 28
  else if month = 4 ∨ month = 6 ∨ month = 9 ∨ month = 11 then 30
  else 31

/-- Whether the calendar has a date. -/
def Valid (d : Date) : Prop :=
  1 ≤ d.month ∧ d.month ≤ 12 ∧ 1 ≤ d.day ∧ d.day ≤ monthLength d.year d.month

instance (d : Date) : Decidable d.Valid :=
  inferInstanceAs (Decidable (_ ∧ _ ∧ _ ∧ _))

/-- The days from 1970-01-01 to a date. -/
def number (d : Date) : Int :=
  let year := if d.month ≤ 2 then d.year - 1 else d.year
  let month : Int := if d.month ≤ 2 then d.month + 9 else d.month - 3
  let dayOfYear := (153 * month + 2) / 5 + d.day - 1
  365 * year + year / 4 - year / 100 + year / 400 + dayOfYear - 719468

/-- The date of a day number. -/
def ofNumber (n : Int) : Date :=
  let n := n + 719468
  let era := n / 146097
  let dayOfEra := n % 146097
  let yearOfEra := (dayOfEra - dayOfEra / 1460 + dayOfEra / 36524 - dayOfEra / 146096) / 365
  let dayOfYear := dayOfEra - (365 * yearOfEra + yearOfEra / 4 - yearOfEra / 100)
  let month := (5 * dayOfYear + 2) / 153
  let day := dayOfYear - (153 * month + 2) / 5 + 1
  let year := yearOfEra + era * 400
  if month < 10 then ⟨year, (month + 3).toNat, day.toNat⟩
  else ⟨year + 1, (month - 9).toNat, day.toNat⟩

end Date

end PageSweep
