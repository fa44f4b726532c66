import PageSweep.Stats.Arith

/-!
# Digests

A digest keeps a series as a short list of centroids, each standing for several
values by their sum and their number, together with the least and the greatest
value. New values wait in a backlog; when it holds more than a hundred, and before
the digest is asked, they are merged.

Merging goes through all centroids in the order of their means and fuses
neighbours as long as the share of the series that they cover stays within a
limit. The limit depends on the share covered before: it is what makes centroids
small at both ends of the series and large in the middle.

A quantile is interpolated between the means of the two centroids around it, and
towards the least or the greatest value at the ends.

## Main definitions

* `Centroid`: Values known by sum and number.
* `Digest`: Centroids, backlog and extremes.
* `Digest.insert`, `Digest.merge`: Adding a value, clearing the backlog.
* `Digest.quantile`: The value below which a share of the series lies.
-/

namespace PageSweep

/-- Values known by their sum and their number. -/
structure Centroid (α : Type) where
  sum : α
  count : α

/-- A digest of a series. -/
structure Digest (α : Type) where
  /-- Centroids in the order of their means. -/
  centroids : List (Centroid α)
  /-- Values not merged yet, the last one first. -/
  backlog : List (Centroid α)
  least : α
  greatest : α

namespace Digest

variable {α : Type} [Arith α]

open Arith

/-- The mean of the values of a centroid. -/
def mean (c : Centroid α) : α := c.sum / c.count

/-- One centroid in place of two. -/
def fuse (c d : Centroid α) : Centroid α := ⟨c.sum + d.sum, c.count + d.count⟩

/-- How many values centroids stand for. -/
def total (centroids : List (Centroid α)) : α :=
  centroids.foldl (fun n c => n + c.count) (ofNat 0)

/-- Goes through the centroids after `current`. `covered` is the share of the
series before it, and `limit` the share up to which it may grow. -/
def compact (limitAfter : α → α) (size : α) (covered limit : α) (current : Centroid α) :
    List (Centroid α) → List (Centroid α)
  | [] => [current]
  | next :: rest =>
    if covered + (current.count + next.count) / size ≤ limit then
      compact limitAfter size covered limit (fuse current next) rest
    else
      let covered := covered + current.count / size
      current :: compact limitAfter size covered (limitAfter covered) next rest

/-- The centroids fused where the limit allows it. -/
def compress (limitAfter : α → α) (centroids : List (Centroid α)) : List (Centroid α) :=
  match centroids.mergeSort fun c d => decide (mean c ≤ mean d) with
  | [] => []
  | first :: rest =>
    compact limitAfter (total (first :: rest)) (ofNat 0) (limitAfter (ofNat 0)) first rest

/-- The digest without a backlog. -/
def merge (limitAfter : α → α) (d : Digest α) : Digest α :=
  if d.backlog.isEmpty then d
  else { d with
    centroids := compress limitAfter (d.centroids ++ d.backlog.reverse)
    backlog := [] }

/-- How many values may wait. -/
def backlogSize : Nat := 100

/-- The digest of a single value. -/
def single (x : α) : Digest α :=
  ⟨[], [⟨x, ofNat 1⟩], x, x⟩

/-- The digest with one more value. -/
def insert (limitAfter : α → α) (d : Digest α) (x : α) : Digest α :=
  let d : Digest α :=
    { d with
      backlog := ⟨x, ofNat 1⟩ :: d.backlog
      least := if x ≤ d.least then x else d.least
      greatest := if d.greatest ≤ x then x else d.greatest }
  if backlogSize < d.backlog.length then d.merge limitAfter else d

/-- The digest of a series that begins with `first`. -/
def ofValues (limitAfter : α → α) (first : α) (rest : List α) : Digest α :=
  rest.foldl (insert limitAfter) (single first)

/-- The point between `a` and `b` at the share `t` of the way. -/
def between (a b t : α) : α :=
  t * b + (ofNat 1 - t) * a

/-- The value at `place` values from the start. `before` values lie in front of
`previous`; `next` is the centroid after it. -/
def locate (place size greatest : α) (before : α) (previous : Centroid α) :
    List (Centroid α) → α
  | [] =>
    let before := before - half previous.count
    between (mean previous) greatest ((place - before) / (size - half previous.count))
  | next :: rest =>
    if place ≤ before + half next.count then
      let before := before - half previous.count
      between (mean previous) (mean next)
        ((place - before) / half (previous.count + next.count))
    else locate place size greatest (before + next.count) next rest

/-- The value below which the share `q` of a series lies, from the centroids of the
series. -/
def quantileOf (least greatest q : α) (centroids : List (Centroid α)) : Option α :=
  match centroids with
  | [] => none
  | first :: rest =>
    let size := total (first :: rest)
    let place := size * q
    if place ≤ half first.count then some (between least (mean first) (place / half first.count))
    else some (locate place size greatest (ofNat 0 + first.count) first rest)

/-- The value below which the share `q` of the series lies. -/
def quantile (limitAfter : α → α) (d : Digest α) (q : α) : Option α :=
  let d := d.merge limitAfter
  quantileOf d.least d.greatest q d.centroids

end Digest

end PageSweep
