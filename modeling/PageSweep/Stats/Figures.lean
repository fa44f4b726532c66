import PageSweep.Stats.Digest

/-!
# Figures of a Sorted Series

A sorted series is summed up by its average, extremes, median and upper
percentiles. The average adds the values up from the least to the greatest; the
percentiles are read off a digest into which the values go in the same order.

Like the digest, the figures are computed in any number system.

## Main definitions

* `Figures`: The figures of a series.
* `Figures.mean`, `Figures.median`: The average and the middle.
* `Figures.ofSorted`: The figures of a sorted series.
-/

namespace PageSweep

/-- The figures of a series. -/
structure Figures (α : Type) where
  avg : α
  min : α
  med : α
  max : α
  p90 : α
  p95 : α
  p99 : α
  /-- How many values there are. -/
  count : Nat

namespace Figures

variable {α : Type} [Arith α]

open Arith

/-- The average of a series. -/
def mean (values : List α) : α :=
  values.foldl (· + ·) (ofNat 0) / ofNat values.length

/-- The middle of a sorted series, or the average of the two values there. -/
def median (sorted : List α) : α :=
  let middle := sorted.length / 2
  let high := sorted.getD middle (ofNat 0)
  if sorted.length % 2 = 1 then high else half (high + sorted.getD (middle - 1) (ofNat 0))

/-- Hundredths of a whole. -/
def percent (n : Nat) : α := ofNat n / ofNat 100

/-- The figures of a sorted series that begins with `first`. `limitAfter` is the
limit of the digest. -/
def ofSorted (limitAfter : α → α) (first : α) (rest : List α) : Figures α :=
  let values := first :: rest
  let digest := Digest.ofValues limitAfter first rest
  let percentile (n : Nat) : α := (digest.quantile limitAfter (percent n)).getD (ofNat 0)
  { avg := mean values
    min := first
    med := median values
    max := values.getLast (List.cons_ne_nil first rest)
    p90 := percentile 90
    p95 := percentile 95
    p99 := percentile 99
    count := values.length }

end Figures

end PageSweep
