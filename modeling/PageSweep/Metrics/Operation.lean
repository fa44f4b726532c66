/-!
# Observations

What is measured during a run goes into named series of three kinds: trends collect
samples, counters add up, and checks tally outcomes. A series exists from the first
time it is asked for, also without an observation, and whoever asks for a name gets
the same series.

## Main definitions

* `Operation`: Asking for a series, or an observation in one.
-/

namespace PageSweep

/-- Asking for a series, or an observation in one. An observation asks for its
series, too. -/
inductive Operation where
  /-- Asks for a trend. -/
  | trend (name : String)
  /-- Asks for a counter. -/
  | counter (name : String)
  /-- Asks for a check. -/
  | check (name : String)
  /-- A sample of a trend. -/
  | add (name : String) (sample : Float)
  /-- An increment of a counter. -/
  | increment (name : String) (amount : UInt64)
  /-- An outcome of a check. -/
  | record (name : String) (passed : Bool)
  deriving DecidableEq

end PageSweep
