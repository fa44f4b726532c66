import PageSweep.Scenario
import PageSweep.Time.Sleep

/-!
# Running Scenarios

Several scenarios run side by side on one clock. The clock counts milliseconds and
jumps from each wake-up to the next; users that wake at the same time take their
turns in the order in which they fell asleep.

A user that is between two iterations looks at the clock: before the deadline of
its scenario it begins another iteration, otherwise it stops. Work on an iteration
goes on until it sleeps, ends or crashes. A crash stops the user at once, and the
iteration does not count; the other users do not notice.

What happened is kept as a list of events, and what a scenario did is read off it.

## Main definitions

* `Workload`: What users do in an iteration.
* `Executor.Event`: Something that happened to a user.
* `Executor.run`: Running scenarios.
* `Executor.statistics`: What a scenario did.
-/

namespace PageSweep

/-- How a turn of work ends. -/
inductive Move (α : Type) where
  /-- Sleeping for some milliseconds before going on. -/
  | sleep (millis : Nat) (work : α)
  /-- The iteration is complete. -/
  | finish
  | crash

/-- What users do in an iteration, on a world `σ` that they share. `α` is what a
user holds between two turns. -/
structure Workload (σ α : Type) where
  /-- Begins the given iteration of a user of a scenario. -/
  start : (crew user iteration : Nat) → σ → Move α × σ
  /-- Goes on after a sleep. -/
  resume : α → σ → Move α × σ

namespace Executor

/-- Something that happened to a user of a scenario. -/
inductive Event where
  /-- An iteration was completed. -/
  | completed (crew user iteration start stop : Nat)
  /-- The user found the deadline reached. -/
  | stopped (crew user time : Nat)
  /-- The user's iteration crashed. -/
  | crashed (crew user time : Nat)
  deriving DecidableEq, Repr

/-- A user that will wake up. -/
structure Task (α : Type) where
  crew : Nat
  user : Nat
  /-- When it wakes up. -/
  wake : Nat
  /-- How many iterations it has completed. -/
  iteration : Nat
  /-- When the iteration began, if one is going on. -/
  since : Nat
  /-- What it holds, if an iteration is going on. -/
  work : Option α

variable {σ α : Type}

/-- Puts a task behind all that wake up no later. -/
def schedule (task : Task α) : List (Task α) → List (Task α)
  | [] => [task]
  | first :: rest =>
    if first.wake ≤ task.wake then first :: schedule task rest else task :: first :: rest

/-- A state between two turns. -/
structure State (σ α : Type) where
  /-- Tasks in the order of their turns. -/
  agenda : List (Task α)
  world : σ
  /-- What happened, the last event first. -/
  events : List Event

/-- What a turn leads to. -/
def settle (task : Task α) (agenda : List (Task α)) (events : List Event) :
    Move α × σ → State σ α
  | (.sleep millis work, world) =>
    ⟨schedule { task with wake := task.wake + Sleep.length millis, work := some work } agenda,
      world, events⟩
  | (.finish, world) =>
    ⟨{ task with iteration := task.iteration + 1, work := none } :: agenda, world,
      .completed task.crew task.user task.iteration task.since task.wake :: events⟩
  | (.crash, world) => ⟨agenda, world, .crashed task.crew task.user task.wake :: events⟩

/-- Whether the clock shows a time before the deadline of a scenario that started at
zero. -/
def beforeDeadline (s : Scenario) (millis : Nat) : Bool :=
  millis * 1000000 < s.duration.nanos

/-- The deadline test for a task of one of the scenarios. -/
def mayBegin (scenarios : List Scenario) (task : Task α) : Bool :=
  match scenarios[task.crew]? with
  | some s => beforeDeadline s task.wake
  | none => false

/-- One turn of a task. -/
def turn (w : Workload σ α) (scenarios : List Scenario) (task : Task α)
    (agenda : List (Task α)) (world : σ) (events : List Event) : State σ α :=
  match task.work with
  | some work => settle task agenda events (w.resume work world)
  | none =>
    if mayBegin scenarios task then
      let task := { task with since := task.wake }
      settle task agenda events (w.start task.crew task.user task.iteration world)
    else ⟨agenda, world, .stopped task.crew task.user task.wake :: events⟩

/-- At most the given number of turns. -/
def turns (w : Workload σ α) (scenarios : List Scenario) : Nat → State σ α → State σ α
  | 0, s => s
  | more + 1, s =>
    match s.agenda with
    | [] => s
    | task :: agenda => turns w scenarios more (turn w scenarios task agenda s.world s.events)

/-- The users of a scenario at the start. -/
def crew (index : Nat) (s : Scenario) : List (Task α) :=
  (List.range' 1 s.vus.val).map fun user =>
    { crew := index, user, wake := 0, iteration := 0, since := 0, work := none }

/-- All users at the start, those of the first scenario first. -/
def crews (index : Nat) : List Scenario → List (Task α)
  | [] => []
  | s :: rest => crew index s ++ crews (index + 1) rest

/-- The events of scenarios in their order, and the world afterwards. `bound` is the
greatest number of turns. -/
def run (w : Workload σ α) (scenarios : List Scenario) (bound : Nat) (world : σ) :
    List Event × σ :=
  let s := turns w scenarios bound ⟨crews 0 scenarios, world, []⟩
  (s.events.reverse, s.world)

/-- Whether an event is a completed iteration of a scenario. -/
def Event.completes (index : Nat) : Event → Bool
  | .completed crew .. => crew = index
  | _ => false

/-- When an event ended a user of a scenario; zero for other events. -/
def Event.ending (index : Nat) : Event → Nat
  | .stopped crew _ time => if crew = index then time else 0
  | .crashed crew _ time => if crew = index then time else 0
  | .completed .. => 0

/-- When the last user of a scenario ended, in milliseconds. -/
def ending (events : List Event) (index : Nat) : Nat :=
  events.foldl (fun last e => max last (e.ending index)) 0

/-- What a scenario did. -/
def statistics (events : List Event) (index : Nat) (s : Scenario) : RunStatistics :=
  { name := s.name
    vus := s.vus.val
    iterations := events.countP (·.completes index)
    elapsed := .ofMillis (ending events index) }

end Executor

end PageSweep
