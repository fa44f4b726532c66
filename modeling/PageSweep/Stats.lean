import PageSweep.Decimal.Binary
import PageSweep.Stats.Figures
import PageSweep.Stats.Order

/-!
# Statistics of a Series

A series of measurements is summed up by its average, extremes, median and upper
percentiles. All of them are computed from the sorted series, so the order in which
the measurements came in does not matter. The percentiles are read off a digest.

A series without values has no statistics, and values that are not finite are
refused.

## Main definitions

* `Stats`: The figures of a series.
* `Stats.ofValues`: The figures of a series, if all its values are finite.
-/

namespace PageSweep

/-- The figures of a series of measurements. -/
abbrev Stats := Figures Float

namespace Stats

/-- The ratio of a circle's circumference to its diameter. -/
def pi : Float := 3.141592653589793

/-- How many centroids a digest has, about. -/
def compression : Float := 10.0

/-- A number moved into the range from `low` to `high`. -/
def clamp (low high x : Float) : Float :=
  if x ≤ low then low else if high ≤ x then high else x

/-- The scale on which every centroid covers one unit at most: steep at the ends
of the series and flat in the middle. -/
def scale (share : Float) : Float :=
  compression / (2.0 * pi) * (2.0 * clamp 0.0 1.0 share - 1.0).asin

/-- The share of a series at a point of the scale. -/
def unscale (k : Float) : Float :=
  let range := 0.25 * compression
  ((clamp (-range) range k * 2.0 * pi / compression).sin + 1.0) / 2.0

/-- Up to which share a centroid may grow that begins after the share `covered`. -/
def limitAfter (covered : Float) : Float :=
  unscale (scale covered + 1.0)

/-- Why a series has no figures. -/
inductive Fault where
  /-- One of its values is an infinity or a NaN. -/
  | notFinite
  deriving DecidableEq, Repr

/-- The figures of a series; an empty one has none. -/
def ofValues (values : List Float) : Except Fault (Option Stats) :=
  if values.all Decimal.isFinite then
    match sorted values with
    | [] => .ok none
    | first :: rest => .ok (some (Figures.ofSorted limitAfter first rest))
  else .error .notFinite

end Stats

end PageSweep
