import PageSweep.Metrics.Operation
import PageSweep.Sweep

/-!
# Flows

A flow is a sweep of the days up to now, with its measurements reported. Every
shape of flow has three series of its own: the time per page, the time per flow and
the number of pages. All flows share one check, which tallies whether a page came
with status 200.

A flow whose window lies outside the calendar crashes before its first request.

## Main definitions

* `Flow.Shape`: A name and a number of days.
* `Flow.register`: Asking for the series of a shape.
* `Flow.report`: What a finished sweep adds to them.
* `Flow.run`: One flow.
-/

namespace PageSweep

namespace Flow

/-- What a scenario asks for. -/
structure Shape where
  name : String
  days : Nat
  deriving DecidableEq

/-- The last day. -/
def lastDay : Shape := ⟨"last_1d", 1⟩

/-- The last thirty days. -/
def lastMonth : Shape := ⟨"last_30d", 30⟩

/-- The check on the status of each page. -/
def statusCheck : String := "200"

/-- The name of a series of a shape: the name of the shape with something around it. -/
def Shape.series (shape : Shape) (front back : String) : String := front ++ shape.name ++ back

/-- The trend of the time per page. -/
def Shape.pageTrend (shape : Shape) : String := shape.series "page_" "_ms"

/-- The trend of the time per flow. -/
def Shape.totalTrend (shape : Shape) : String := shape.series "flow_" "_total_ms"

/-- The counter of pages. -/
def Shape.pageCounter (shape : Shape) : String := shape.series "pages_" ""

/-- Asks for the series of a shape. -/
def Shape.register (shape : Shape) : List Operation :=
  [.trend shape.pageTrend, .trend shape.totalTrend, .counter shape.pageCounter]

/-- Asks for everything that a flow reports to. -/
def register (shape : Shape) : List Operation :=
  shape.register ++ [.check statusCheck]

/-- What a finished sweep adds to the series of its shape. -/
def report (shape : Shape) (result : Sweep.Result) : List Operation :=
  [.add shape.pageTrend result.pageAvgMs, .add shape.totalTrend result.totalMs,
    .increment shape.pageCounter (UInt64.ofNat result.pages)]

/-- Why a flow crashes. -/
inductive Crash where
  /-- The window lies outside the calendar. -/
  | window
  deriving DecidableEq, Repr

/-- A flow that has run. -/
structure Outcome (σ : Type) where
  log : Sweep.Log σ
  /-- What it reported, in order. -/
  operations : List Operation

variable {σ : Type}

/-- One flow up to the instant `now`. `observe` is what the client reports about a
reply before the sweep does. -/
def run (serve : σ → Url → Exchange × σ) (observe : Exchange → List Operation)
    (config : Config) (shape : Shape) (now : Instant) (server : σ) :
    Except Crash (Outcome σ) :=
  match Window.endingAt? now 0 shape.days with
  | none => .error .window
  | some window =>
    let log := Sweep.run serve statusCheck config window server
    .ok ⟨log, (log.visits.flatMap fun v => observe v.reply ++ v.reported) ++
      report shape log.result⟩

end Flow

end PageSweep
