import PageSweep.Catalog
import PageSweep.Metrics.Operation

/-!
# The Registry

The registry keeps every observation of a run for the summary at its end. Trends,
counters and checks are filed apart, so one name can stand for a series of each
kind. Totals and tallies are 64-bit words.

## Main definitions

* `Tally`: The outcomes of a check.
* `Registry`: All series of a run.
* `Registry.apply`: The registry after an operation.
* `Registry.run`: The registry after several operations.
-/

namespace PageSweep

/-- The outcomes of a check. -/
structure Tally where
  passes : UInt64
  fails : UInt64
  deriving DecidableEq

namespace Tally

/-- No outcome yet. -/
def zero : Tally := ⟨0, 0⟩

/-- The tally with one more outcome. -/
def record (t : Tally) (passed : Bool) : Tally :=
  if passed then { t with passes := t.passes + 1 } else { t with fails := t.fails + 1 }

end Tally

/-- All series of a run. -/
structure Registry where
  /-- The samples of each trend, the last one first. -/
  trends : Catalog (List Float)
  counters : Catalog UInt64
  checks : Catalog Tally

namespace Registry

/-- No series yet. -/
def empty : Registry := ⟨[], [], []⟩

/-- The registry after an operation. -/
def apply (r : Registry) : Operation → Registry
  | .trend name => { r with trends := r.trends.adjust name [] id }
  | .counter name => { r with counters := r.counters.adjust name 0 id }
  | .check name => { r with checks := r.checks.adjust name Tally.zero id }
  | .add name sample => { r with trends := r.trends.adjust name [] (sample :: ·) }
  | .increment name amount => { r with counters := r.counters.adjust name 0 (· + amount) }
  | .record name passed => { r with checks := r.checks.adjust name Tally.zero (·.record passed) }

/-- The registry after operations, the first one first. -/
def run (r : Registry) (operations : List Operation) : Registry :=
  operations.foldl apply r

/-- The samples of a trend. -/
def samples (r : Registry) (name : String) : List Float :=
  (r.trends.find? name).getD []

/-- The total of a counter. -/
def total (r : Registry) (name : String) : UInt64 :=
  (r.counters.find? name).getD 0

/-- The outcomes of a check. -/
def tally (r : Registry) (name : String) : Tally :=
  (r.checks.find? name).getD Tally.zero

end Registry

end PageSweep
