import PageSweep.Metrics.Registry
import PageSweep.Stats
import PageSweep.Time.Span
import PageSweep.Word

/-!
# The Summary of a Run

At the end of a run every series is summed up: checks with their share of passes,
trends with their statistics, counters with their rate per second, and the
scenarios with what they did. The entries stand in the order of their names.

The outcomes of a check are added up for its share of passes, and the failures of all
checks for their number. A sum that is no word is none: the program stops at it.

## Main definitions

* `RunStatistics`: What a scenario did.
* `Summary`: All entries.
* `Summary.collect`: The summary of a registry.
* `CheckSummary.passRate?`: The share of passes.
* `Summary.failedChecks?`: How many checks failed.
-/

namespace PageSweep

/-- What a scenario did. -/
structure RunStatistics where
  name : String
  /-- How many virtual users it had. -/
  vus : Nat
  /-- How many iterations were completed. -/
  iterations : Nat
  elapsed : Span

/-- A check at the end of a run. -/
structure CheckSummary where
  name : String
  passes : UInt64
  fails : UInt64

/-- A trend at the end of a run. -/
structure TrendSummary where
  name : String
  /-- The figures of its samples, if it has any. -/
  stats : Option Stats

/-- A counter at the end of a run. -/
structure CounterSummary where
  name : String
  total : UInt64
  /-- The total per second of run time. -/
  rate : Float

/-- The summary of a run. -/
structure Summary where
  checks : List CheckSummary
  trends : List TrendSummary
  counters : List CounterSummary
  scenarios : List RunStatistics
  elapsed : Span

/-- The share of passes in a number of outcomes, zero without an outcome. -/
def CheckSummary.share (c : CheckSummary) (total : UInt64) : Float :=
  if total = 0 then 0.0 else c.passes.toFloat / total.toFloat

/-- The share of passes, if the outcomes can be counted. -/
def CheckSummary.passRate? (c : CheckSummary) : Option Float :=
  (Word.add? c.passes c.fails).map c.share

namespace Summary

/-- The span in seconds. -/
def seconds (span : Span) : Float :=
  Float.ofNat span.secs + Float.ofNat span.subsec / 1000000000.0

/-- A total per second; nothing per second if no time passed. -/
def rate (total : UInt64) (elapsed : Span) : Float :=
  let secs := seconds elapsed
  if 0.0 < secs then total.toFloat / secs else 0.0

/-- The summary of a registry. There is none if a trend holds a sample that is not
finite. -/
def collect (registry : Registry) (scenarios : List RunStatistics) (elapsed : Span) :
    Except Stats.Fault Summary := do
  let trends ← registry.trends.mapM fun (name, samples) => do
    return ({ name, stats := ← Stats.ofValues samples } : TrendSummary)
  return {
    checks := registry.checks.map fun (name, t) => ⟨name, t.passes, t.fails⟩
    trends
    counters := registry.counters.map fun (name, total) => ⟨name, total, rate total elapsed⟩
    scenarios
    elapsed }

/-- The first trend of a name. -/
def trend? (s : Summary) (name : String) : Option TrendSummary :=
  s.trends.find? (·.name = name)

/-- The first counter of a name. -/
def counter? (s : Summary) (name : String) : Option CounterSummary :=
  s.counters.find? (·.name = name)

/-- How many checks failed in all, if that can be counted. -/
def failedChecks? (s : Summary) : Option UInt64 :=
  Word.sum? (s.checks.map CheckSummary.fails)

end Summary

end PageSweep
