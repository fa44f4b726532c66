import PageSweep.Decimal.Fixed
import PageSweep.Decimal.Shortest
import PageSweep.Stats

/-!
# Printed Latencies

A latency in milliseconds is printed with two places and a unit that keeps it
readable: minutes and seconds from one minute on, seconds from one second on,
milliseconds from one millisecond on, and microseconds below. Zero is printed in
milliseconds. The unit is chosen before rounding.

## Main definitions

* `Latency.text`: A latency.
* `Stats.text`: The figures of a series.
-/

namespace PageSweep

namespace Latency

/-- A whole-numbered double without a point. -/
def wholeText (x : Float) : String :=
  match Decimal.binary x with
  | .finite negative mantissa exponent =>
    let digits := Decimal.shortest mantissa exponent
    (if negative then "-" else "") ++
      toString (digits.coefficient * Nat.pow 10 digits.exponent.toNat)
  | _ => Decimal.fixed 0 x

/-- A latency of `ms` milliseconds. -/
def text (ms : Float) : String :=
  if 60000.0 ≤ ms then
    let minutes := Decimal.floor (ms / 60000.0)
    wholeText minutes ++ "m" ++ Decimal.fixed 2 ((ms - minutes * 60000.0) / 1000.0) ++ "s"
  else if 1000.0 ≤ ms then Decimal.fixed 2 (ms / 1000.0) ++ "s"
  else if 1.0 ≤ ms || ms == 0.0 then Decimal.fixed 2 ms ++ "ms"
  else Decimal.fixed 2 (ms * 1000.0) ++ "µs"

end Latency

namespace Stats

/-- The figures of a series on one line. -/
def text (s : Stats) : String :=
  "avg=" ++ Latency.text s.avg ++ " med=" ++ Latency.text s.med ++ " p(95)=" ++
    Latency.text s.p95 ++ " p(99)=" ++ Latency.text s.p99 ++ " count=" ++ toString s.count

end Stats

end PageSweep
