/-!
# Sleeping

A sleep is cut off after thirty years of 365 days, so no wake-up lies further ahead of
the clock than that.

## Main definitions

* `Sleep.longest`: The longest sleep.
* `Sleep.length`: How long a sleep lasts.
-/

namespace PageSweep

namespace Sleep

/-- The longest sleep in milliseconds. -/
def longest : Nat := 30 * 365 * 86400000

/-- How long a sleep of the given milliseconds lasts. -/
def length (millis : Nat) : Nat := min millis longest

end Sleep

end PageSweep
