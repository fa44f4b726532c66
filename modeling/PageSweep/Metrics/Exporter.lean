import PageSweep.Metrics.Operation

/-!
# The Exporter

Every observation is also handed to an exporter while the run goes on. The exporter
knows histograms and counters, each under a name and labels. A trend is a
histogram, a counter is a counter without labels, and a check is two counters named
`checks`, one for each result.

## Main definitions

* `Exporter.Key`: Under what a series is exported.
* `Exporter`: All exported series.
* `Exporter.apply`: The exporter after an operation.
-/

namespace PageSweep

/-- Under what a series is exported. -/
inductive Exporter.Key where
  | histogram (name : String)
  | counter (name : String) (labels : List (String × String))
  deriving DecidableEq

/-- What an exported series holds. -/
inductive Exporter.Reading where
  /-- Values, the last one first. -/
  | values (list : List Float)
  | total (n : UInt64)
  deriving DecidableEq

/-- All exported series, in the order in which they were asked for. -/
structure Exporter where
  series : List (Exporter.Key × Exporter.Reading)

namespace Exporter

/-- No series yet. -/
def empty : Exporter := ⟨[]⟩

/-- A histogram with one more value. -/
def Reading.observe (sample : Float) : Reading → Reading
  | .values list => .values (sample :: list)
  | reading => reading

/-- A counter with a greater total. -/
def Reading.increase (amount : UInt64) : Reading → Reading
  | .total n => .total (n + amount)
  | reading => reading

/-- Changes the series of a key, starting from `start` if there is none. -/
def adjust (key : Key) (start : Reading) (change : Reading → Reading) :
    List (Key × Reading) → List (Key × Reading)
  | [] => [(key, change start)]
  | (k, reading) :: rest =>
    if k = key then (k, change reading) :: rest
    else (k, reading) :: adjust key start change rest

/-- The counter of one result of a check. -/
def resultKey (check : String) (passed : Bool) : Key :=
  .counter "checks" [("check", check), ("result", if passed then "pass" else "fail")]

/-- Asks for both counters of a check. -/
def register (check : String) (series : List (Key × Reading)) : List (Key × Reading) :=
  adjust (resultKey check false) (.total 0) id (adjust (resultKey check true) (.total 0) id series)

/-- The exporter after an operation. -/
def apply (e : Exporter) : Operation → Exporter
  | .trend name => ⟨adjust (.histogram name) (.values []) id e.series⟩
  | .counter name => ⟨adjust (.counter name []) (.total 0) id e.series⟩
  | .check name => ⟨register name e.series⟩
  | .add name sample => ⟨adjust (.histogram name) (.values []) (.observe sample) e.series⟩
  | .increment name amount => ⟨adjust (.counter name []) (.total 0) (.increase amount) e.series⟩
  | .record name passed =>
    ⟨adjust (resultKey name passed) (.total 0) (.increase 1) (register name e.series)⟩

/-- The exporter after operations, the first one first. -/
def run (e : Exporter) (operations : List Operation) : Exporter :=
  operations.foldl apply e

/-- What is exported under a key. -/
def find? (key : Key) (e : Exporter) : Option Reading :=
  e.series.lookup key

end Exporter

end PageSweep
