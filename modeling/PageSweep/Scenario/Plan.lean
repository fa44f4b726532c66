import PageSweep.Scenario.Executor

/-!
# Planned Iterations

A plan says for each user what its iterations do: sleep for a number of
milliseconds, or crash. Users take the rows of the plan in turns, and each repeats
its row.

## Main definitions

* `Plan`: Rows of iterations.
* `Plan.workload`: What users do.
* `Plan.run`: Running one scenario by a plan.
-/

namespace PageSweep

/-- Rows of iterations. An iteration sleeps for some milliseconds; none means that
it crashes. -/
structure Plan where
  rows : List (List (Option Nat))

namespace Plan

/-- What an iteration of a user does. -/
def entry (p : Plan) (user iteration : Nat) : Option Nat :=
  let row := p.rows.getD ((user - 1) % p.rows.length) []
  (row[iteration % row.length]?).join

/-- Users sleep or crash by the plan. -/
def workload (p : Plan) : Workload Unit Unit where
  start := fun _ user iteration world =>
    match p.entry user iteration with
    | some millis => (.sleep millis (), world)
    | none => (.crash, world)
  resume := fun _ world => (.finish, world)

/-- A number of turns that suffices unless a user sleeps for no time at all in every
iteration: each pass of a row takes a millisecond at least. -/
def bound (p : Plan) (s : Scenario) : Nat :=
  let longest := (p.rows.map List.length).foldl max 0
  s.vus.val * (2 * (s.duration.millis + 2) * (longest + 1) + 2)

/-- The events of one scenario. -/
def run (p : Plan) (s : Scenario) : List Executor.Event :=
  (Executor.run p.workload [s] (p.bound s) ()).1

end Plan

end PageSweep
