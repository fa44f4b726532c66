import PageSweep.Report
import PageSweep.Stats.Text

/-!
# The Printed Summary

One line for each check, trend and counter, in this order, then an empty line, then
one line for each scenario. Every line is indented. Names of series are filled up
with points to a width of 32 bytes; longer names stay as they are. There is no text if the
outcomes of a check cannot be counted.

## Main definitions

* `Report.dotted`: A name filled up with points.
* `RunStatistics.text`: A scenario.
* `Summary.text?`: The whole summary.
-/

namespace PageSweep

/-- A scenario with what it did. The time is cut to whole milliseconds, counted in 64
bits. -/
def RunStatistics.text (r : RunStatistics) : String :=
  r.name ++ ": " ++ toString r.vus ++ " VUs, " ++ toString r.iterations ++
    " complete iterations in " ++ (Span.ofMillis (r.elapsed.millis % 0x10000000000000000)).text

namespace Report

/-- The width to which names are filled up. -/
def nameWidth : Nat := 32

/-- A name filled up with points. -/
def dotted (name : String) : String :=
  name ++ String.ofList (List.replicate (nameWidth - name.utf8ByteSize) '.')

/-- A line of a series. -/
def line (name value : String) : String :=
  "     " ++ dotted name ++ ": " ++ value ++ "\n"

/-- The line of a check with its share of passes. -/
def checkLine (c : CheckSummary) (rate : Float) : String :=
  line ("checks\x7b" ++ c.name ++ "\x7d")
    (Decimal.fixed 2 (rate * 100.0) ++ "% ✓ " ++ toString c.passes.toNat ++ " ✗ " ++
      toString c.fails.toNat)

/-- The line of a check, if its outcomes can be counted. -/
def checkLine? (c : CheckSummary) : Option String :=
  c.passRate?.map (checkLine c)

/-- The line of a trend. -/
def trendLine (t : TrendSummary) : String :=
  line t.name (match t.stats with
    | some stats => stats.text
    | none => "no samples")

/-- The line of a counter. -/
def counterLine (c : CounterSummary) : String :=
  line c.name (toString c.total.toNat ++ " " ++ Decimal.fixed 2 c.rate ++ "/s")

/-- The line of a scenario. -/
def scenarioLine (r : RunStatistics) : String :=
  "     " ++ r.text ++ "\n"

end Report

/-- The text of a summary. -/
def Summary.text? (s : Summary) : Option String :=
  (s.checks.mapM Report.checkLine?).map fun checks =>
    String.join checks ++ String.join (s.trends.map Report.trendLine) ++
      String.join (s.counters.map Report.counterLine) ++ "\n" ++
      String.join (s.scenarios.map Report.scenarioLine)

end PageSweep
