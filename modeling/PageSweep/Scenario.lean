import PageSweep.Config
import PageSweep.Report

/-!
# Scenarios

A scenario has a fixed number of virtual users. Each of them repeats an iteration
for a fixed time; an iteration that has begun is never cut short.

Before it starts, the end of that time has to be a reading of the clock, which
counts seconds in a signed 64-bit number, and the list of users has to be small
enough to be addressed.

## Main definitions

* `Scenario`: A name, the users and the time.
* `Scenario.setUp`: Whether a scenario can be started.
* `Config.scenario`: The scenario of a configuration.
-/

namespace PageSweep

/-- A fixed number of users, busy for a fixed time. -/
structure Scenario where
  name : String
  vus : UserCount
  duration : Span

namespace Scenario

/-- The default scenario of a name. -/
def ofName (name : String) : Scenario :=
  ⟨name, Config.defaultVus, Config.defaultDuration⟩

/-- Why a scenario cannot be started. -/
inductive Crash where
  /-- The end is no reading of the clock. -/
  | clock
  /-- The list of users is too large. -/
  | users
  deriving DecidableEq, Repr

/-- The bytes that the list of users needs for each of them. -/
def userSize : Nat := 8

/-- The scenario, if it can be started when the clock shows zero. -/
def setUp (s : Scenario) : Except Crash Scenario :=
  if 0x8000000000000000 ≤ s.duration.secs then .error .clock
  else if 0x8000000000000000 ≤ s.vus.val * userSize then .error .users
  else .ok s

end Scenario

/-- The scenario of a configuration, under a name. -/
def Config.scenario (c : Config) (name : String) : Scenario :=
  ⟨name, c.vus, c.duration⟩

end PageSweep
