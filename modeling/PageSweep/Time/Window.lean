import PageSweep.Time.Instant

/-!
# Query Windows

A flow asks for the events of the days up to now. Both ends of its window are
rendered once, in the form that the events endpoint expects, and stay the same for
all pages of the flow.

The calendar is that of the place where the clock is read: the window has to lie
inside it in local time, and its start also in UTC.

## Main definitions

* `Window`: The two ends of a window.
* `Window.endingAt?`: The window of the days before an instant.
* `Window.days?`: How many whole days a window spans.
-/

namespace PageSweep

/-- The ends of a query window, as they are sent. -/
structure Window where
  start : String
  stop : String
  deriving DecidableEq, Repr

namespace Window

/-- The window of the `days` days up to `stop`, on a clock that is `offset` seconds
ahead of UTC. There is none if it leaves the calendar. -/
def endingAt? (stop : Instant) (offset : Int) (days : Nat) : Option Window :=
  let start := stop.nanos - days * Instant.dayNanos
  let shift := offset * 1000000000
  if Instant.Covered (stop.nanos + shift) ∧ Instant.Covered (start + shift) ∧
      Instant.Covered start then
    some ⟨Instant.textOf start, stop.text⟩
  else none

/-- The whole days between the ends, if both have the form in which they are sent. -/
def days? (window : Window) : Option Int := do
  let start ← Instant.readMillis? window.start.toList
  let stop ← Instant.readMillis? window.stop.toList
  return (stop - start).tdiv 86400000

end Window

end PageSweep
