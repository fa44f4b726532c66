import PageSweep.Flow
import PageSweep.Metrics.Registry
import PageSweep.Scenario.Executor

/-!
# Bench Runs

A run has two scenarios side by side: flows over the last day and flows over the
last thirty days. All users share the server, and everything they measure goes to
one registry, which is summed up at the end.

A user asks for a page, sleeps for as long as the reply takes, and then takes the
reply. When its sweep is over it reports and begins the next flow.

## Main definitions

* `Bench.World`: What all users share.
* `Bench.workload`: What a user does.
* `Bench.run`: A whole run.
-/

namespace PageSweep

namespace Bench

/-- What all users share. -/
structure World (σ : Type) where
  server : σ
  registry : Registry

/-- A request that is not answered yet. -/
structure Pending where
  shape : Flow.Shape
  window : Window
  progress : Sweep.Progress
  reply : Exchange

/-- How a run talks to its server. -/
structure Client (σ : Type) where
  serve : σ → Url → Exchange × σ
  /-- What the client itself reports about a reply. -/
  observe : Exchange → List Operation
  /-- What the client asks for before the run. -/
  register : List Operation

/-- The shapes of the two scenarios. -/
def shapes : List Flow.Shape := [Flow.lastDay, Flow.lastMonth]

/-- A span in whole milliseconds, rounded up. -/
def ceilMillis (span : Span) : Nat :=
  (span.nanos + 999999) / 1000000

variable {σ : Type}

/-- Sends the next request of a sweep. -/
def send (client : Client σ) (config : Config) (shape : Flow.Shape) (window : Window)
    (progress : Sweep.Progress) (world : World σ) : Move Pending × World σ :=
  let url := (progress.query config.limit window).url config.eventsUrl
  let (reply, server) := client.serve world.server url
  (.sleep (ceilMillis reply.duration) ⟨shape, window, progress, reply⟩, { world with server })

/-- Takes the reply to a request. -/
def receive (client : Client σ) (config : Config) (pending : Pending) (world : World σ) :
    Move Pending × World σ :=
  let (progress, reported) := pending.progress.take Flow.statusCheck pending.reply
  let registry := world.registry.run (client.observe pending.reply ++ reported)
  if progress.isOver config.maxPages.val then
    let result : Sweep.Result := ⟨progress.totalMs, progress.pages⟩
    (.finish, { world with registry := registry.run (Flow.report pending.shape result) })
  else send client config pending.shape pending.window progress { world with registry }

/-- Begins a flow of one of the scenarios. -/
def begin (client : Client σ) (config : Config) (now : Instant) (crew : Nat)
    (world : World σ) : Move Pending × World σ :=
  match shapes[crew]? with
  | none => (.crash, world)
  | some shape =>
    match Window.endingAt? now 0 shape.days with
    | none => (.crash, world)
    | some window => send client config shape window .start world

/-- What a user does: one flow after another. -/
def workload (client : Client σ) (config : Config) (now : Instant) :
    Workload (World σ) Pending where
  start := fun crew _ _ world => begin client config now crew world
  resume := receive client config

/-- A number of turns that suffices unless flows take no time at all: each flow takes
a millisecond at least, and it has two turns for each of its pages and two more. -/
def bound (config : Config) : Nat :=
  2 * config.vus.val * ((config.duration.millis + 2) * (2 * config.maxPages.val + 2) + 2)

/-- A run at the instant `now`, on a fresh registry. -/
def run (client : Client σ) (config : Config) (now : Instant) (server : σ) :
    Except Scenario.Crash (List Executor.Event × World σ) := do
  let scenarios ← shapes.mapM fun shape => (config.scenario shape.name).setUp
  let registry := Registry.empty.run (client.register ++ shapes.flatMap Flow.register)
  return Executor.run (workload client config now) scenarios (bound config) ⟨server, registry⟩

/-- What each scenario of a run did. -/
def statistics (config : Config) (events : List Executor.Event) : List RunStatistics :=
  shapes.mapIdx fun index shape =>
    Executor.statistics events index (config.scenario shape.name)

/-- How long a run took. -/
def elapsed (events : List Executor.Event) : Span :=
  .ofMillis (max (Executor.ending events 0) (Executor.ending events 1))

/-- Why a run has no summary. -/
inductive Crash where
  | scenario (cause : Scenario.Crash)
  | stats (cause : Stats.Fault)

/-- The summary of a run. -/
def summary (client : Client σ) (config : Config) (now : Instant) (server : σ) :
    Except Crash Summary :=
  match run client config now server with
  | .error cause => .error (.scenario cause)
  | .ok (events, world) =>
    match Summary.collect world.registry (statistics config events) (elapsed events) with
    | .error cause => .error (.stats cause)
    | .ok summary => .ok summary

end Bench

end PageSweep
