import Mathlib.Data.List.GetD
import Mathlib.Data.List.Pairwise
import PageSweep.Proofs.Stats.Quantile
import PageSweep.Stats

/-!
# The Figures of a Series Are Ordered

A reader of a report takes for granted that the average and the median of a series lie
between its extremes, and that a higher percentile is not below a lower one. In exact
arithmetic this holds for every series, however the limit of its digest is chosen.

The average and the median lie between any two bounds of the values. The percentiles are
quantiles of one digest, and the extremes of the digest are those of the series.

## Main definitions

* `Figures.ofSeries`: The figures of a series in any number system.
* `Figures.Ordered`: What a reader takes for granted.

## Theorems

* `ofValues_eq_ofSeries`: The figures of measurements are computed that way.
* `mean_bounds`, `median_bounds`: Both lie between bounds of the values.
* `ofSeries_ordered`: Every series has figures, and they are ordered.
-/

namespace PageSweep

namespace Figures

open Arith

/-- The figures of a series, which is put in order first; an empty one has none. -/
def ofSeries {α : Type} [Arith α] (before : α → α → Bool) (limitAfter : α → α)
    (values : List α) : Option (Figures α) :=
  match values.mergeSort before with
  | [] => none
  | first :: rest => some (ofSorted limitAfter first rest)

/-- The figures of measurements are those of a series of doubles. -/
theorem ofValues_eq_ofSeries (values : List Float) :
    Stats.ofValues values
      = if values.all Decimal.isFinite then
          .ok (ofSeries (fun x y => decide (Stats.rank x ≤ Stats.rank y)) Stats.limitAfter values)
        else .error .notFinite := by
  unfold Stats.ofValues ofSeries Stats.sorted
  by_cases h : values.all Decimal.isFinite = true
  · rw [if_pos h, if_pos h]
    cases values.mergeSort fun x y => decide (Stats.rank x ≤ Stats.rank y) with
    | nil => rfl
    | cons first rest => rfl
  · rw [if_neg h, if_neg h]

section Bounds

variable (low high : ℚ) (values : List ℚ)

theorem mean_eq : mean values = values.sum / values.length := by
  have hfold : mean values = values.foldl (· + ·) 0 / (values.length : ℚ) := rfl
  rw [hfold, List.sum_eq_foldl]

theorem mean_bounds (hne : values ≠ []) (h : ∀ x ∈ values, low ≤ x ∧ x ≤ high) :
    low ≤ mean values ∧ mean values ≤ high := by
  have hlength : (0 : ℚ) < values.length := Nat.cast_pos.mpr (List.length_pos_iff.mpr hne)
  have hlow := List.card_nsmul_le_sum values low (fun x hx => (h x hx).1)
  have hhigh := List.sum_le_card_nsmul values high (fun x hx => (h x hx).2)
  rw [nsmul_eq_mul, mul_comm] at hlow hhigh
  rw [mean_eq, le_div_iff₀ hlength, div_le_iff₀ hlength]
  exact ⟨hlow, hhigh⟩

theorem getD_bounds (i : Nat) (hi : i < values.length) (h : ∀ x ∈ values, low ≤ x ∧ x ≤ high) :
    low ≤ values.getD i 0 ∧ values.getD i 0 ≤ high := by
  rw [List.getD_eq_getElem values 0 hi]
  exact h _ (List.getElem_mem hi)

theorem median_bounds (hne : values ≠ []) (h : ∀ x ∈ values, low ≤ x ∧ x ≤ high) :
    low ≤ median values ∧ median values ≤ high := by
  have hlength : 0 < values.length := List.length_pos_iff.mpr hne
  have hmiddle := getD_bounds low high values (values.length / 2) (by omega) h
  have hbefore := getD_bounds low high values (values.length / 2 - 1) (by omega) h
  have hmedian : median values = if values.length % 2 = 1 then values.getD (values.length / 2) 0
      else (values.getD (values.length / 2) 0 + values.getD (values.length / 2 - 1) 0) / 2 := rfl
  rw [hmedian]
  split
  · exact hmiddle
  · constructor
    all_goals linarith

end Bounds

section Order

/-- What a reader takes for granted of the figures of a series. -/
structure Ordered (values : List ℚ) (figures : Figures ℚ) : Prop where
  count : figures.count = values.length
  min : figures.min ∈ values ∧ ∀ x ∈ values, figures.min ≤ x
  max : figures.max ∈ values ∧ ∀ x ∈ values, x ≤ figures.max
  med : figures.min ≤ figures.med ∧ figures.med ≤ figures.max
  avg : figures.min ≤ figures.avg ∧ figures.avg ≤ figures.max
  percentiles : figures.min ≤ figures.p90 ∧ figures.p90 ≤ figures.p95 ∧
    figures.p95 ≤ figures.p99 ∧ figures.p99 ≤ figures.max

variable (limitAfter : ℚ → ℚ) (first : ℚ) (rest : List ℚ)

/-- The least value of a sorted series comes first, the greatest one last. -/
theorem extremes_of_sorted (hsorted : (first :: rest).Pairwise (· ≤ ·)) :
    ∀ x ∈ first :: rest,
      first ≤ x ∧ x ≤ (first :: rest).getLast (List.cons_ne_nil first rest) := by
  intro x hx
  constructor
  · rcases List.mem_cons.mp hx with rfl | hmem
    · exact le_refl _
    · exact (List.pairwise_cons.mp hsorted).1 x hmem
  · exact hsorted.rel_getLast hx

theorem percent_le_percent (m n : Nat) (h : m ≤ n) : (percent m : ℚ) ≤ percent n :=
  div_le_div_of_nonneg_right (Nat.cast_le.mpr h) (Nat.cast_nonneg 100)

/-- The digest of a sorted series has its extremes. -/
theorem extremes_ofValues (hsorted : (first :: rest).Pairwise (· ≤ ·)) :
    (Digest.ofValues limitAfter first rest).least = first ∧
      (Digest.ofValues limitAfter first rest).greatest
        = (first :: rest).getLast (List.cons_ne_nil first rest) := by
  have hsound := Digest.sound_of_grown _ _ _ (Digest.grown_ofValues limitAfter first rest)
  have hbounds := extremes_of_sorted first rest hsorted
  constructor
  · exact le_antisymm (hsound.least.2 first List.mem_cons_self) (hbounds _ hsound.least.1).1
  · exact le_antisymm (hbounds _ hsound.greatest.1).2 (hsound.greatest.2 _ (List.getLast_mem _))

/-- The percentiles of a sorted series are the quantiles of its digest. -/
theorem percentile_mono (hsorted : (first :: rest).Pairwise (· ≤ ·)) (m n : Nat) (hmn : m ≤ n)
    (hn : n ≤ 100) :
    ∃ v w, (Digest.ofValues limitAfter first rest).quantile limitAfter (percent m) = some v ∧
      (Digest.ofValues limitAfter first rest).quantile limitAfter (percent n) = some w ∧
      first ≤ v ∧ v ≤ w ∧ w ≤ (first :: rest).getLast (List.cons_ne_nil first rest) := by
  have hgrown := Digest.grown_ofValues limitAfter first rest
  have hextremes := extremes_ofValues limitAfter first rest hsorted
  have hzero : (0 : ℚ) ≤ percent m := div_nonneg (Nat.cast_nonneg m) (Nat.cast_nonneg 100)
  have hone : (percent n : ℚ) ≤ 1 := by
    have hpercent : (percent n : ℚ) = (n : ℚ) / ((100 : Nat) : ℚ) := rfl
    rw [hpercent, div_le_one (Nat.cast_pos.mpr (by decide))]
    exact Nat.cast_le.mpr hn
  have hquantiles := Digest.quantile_mono limitAfter _ _ hgrown _ _ hzero
    (percent_le_percent m n hmn) hone
  rw [hextremes.1, hextremes.2] at hquantiles
  exact hquantiles

/-- The figures of a sorted series. -/
theorem ordered_ofSorted (hsorted : (first :: rest).Pairwise (· ≤ ·)) :
    Ordered (first :: rest) (ofSorted limitAfter first rest) := by
  have hbounds := extremes_of_sorted first rest hsorted
  have hne := List.cons_ne_nil first rest
  refine ⟨rfl, ⟨List.mem_cons_self, fun x hx => (hbounds x hx).1⟩,
    ⟨List.getLast_mem hne, fun x hx => (hbounds x hx).2⟩,
    median_bounds _ _ _ hne hbounds, mean_bounds _ _ _ hne hbounds, ?_⟩
  rcases percentile_mono limitAfter first rest hsorted 90 95 (by decide) (by decide) with
    ⟨v, w, hv, hw, hlow, hvw, -⟩
  rcases percentile_mono limitAfter first rest hsorted 95 99 (by decide) (by decide) with
    ⟨w', u, hw', hu, -, hwu, hhigh⟩
  rw [hw] at hw'
  cases hw'
  unfold ofSorted
  simp only [hv, hw, hu, Option.getD_some]
  exact ⟨hlow, hvw, hwu, hhigh⟩

theorem Ordered.perm (values others : List ℚ) (figures : Figures ℚ) (hperm : values.Perm others)
    (h : Ordered values figures) : Ordered others figures :=
  ⟨h.count.trans hperm.length_eq,
    ⟨hperm.mem_iff.mp h.min.1, fun x hx => h.min.2 x (hperm.mem_iff.mpr hx)⟩,
    ⟨hperm.mem_iff.mp h.max.1, fun x hx => h.max.2 x (hperm.mem_iff.mpr hx)⟩,
    h.med, h.avg, h.percentiles⟩

/-- Every series with a value has figures. They are computed from the series in order, by a
digest that values were inserted into and that was merged at any time; such a digest knows
the number and the sum of its values, keeps its centroids in order and between its
extremes, and has rising quantiles. -/
theorem ofSeries_ordered (values : List ℚ) (h : values ≠ []) :
    (∃ first rest, (first :: rest).Perm values ∧ (first :: rest).Pairwise (· ≤ ·) ∧
      ofSeries (fun x y => decide (x ≤ y)) limitAfter values
        = some (ofSorted limitAfter first rest) ∧
      Digest.Grown limitAfter (first :: rest) (Digest.ofValues limitAfter first rest) ∧
      Ordered values (ofSorted limitAfter first rest)) ∧
    ∀ seen d, Digest.Grown limitAfter seen d →
      Digest.Sound seen d ∧ (d.merge limitAfter).backlog = [] ∧
        Digest.Sound seen (d.merge limitAfter) ∧
        ∀ q r, 0 ≤ q → q ≤ r → r ≤ 1 →
          ∃ v w, d.quantile limitAfter q = some v ∧ d.quantile limitAfter r = some w ∧
            d.least ≤ v ∧ v ≤ w ∧ w ≤ d.greatest := by
  constructor
  · have hperm := List.mergeSort_perm values fun x y => decide (x ≤ y)
    have hsorted : (values.mergeSort fun x y => decide (x ≤ y)).Pairwise (· ≤ ·) :=
      Digest.pairwise_mergeSort id values
    unfold ofSeries
    cases horder : values.mergeSort fun x y => decide (x ≤ y) with
    | nil =>
        rw [horder] at hperm
        exact absurd hperm.nil_eq.symm h
    | cons first rest =>
        rw [horder] at hperm hsorted
        exact ⟨first, rest, hperm, hsorted, rfl, Digest.grown_ofValues limitAfter first rest,
          (ordered_ofSorted limitAfter first rest hsorted).perm _ _ _ hperm⟩
  · intro seen d hgrown
    have hsound := Digest.sound_of_grown limitAfter seen d hgrown
    exact ⟨hsound, Digest.backlog_merge limitAfter d, Digest.Sound.merge limitAfter seen d hsound,
      fun q r hlow hqr hhigh => Digest.quantile_mono limitAfter seen d hgrown q r hlow hqr hhigh⟩

theorem ofSeries_ordered_three :
    [(30 : ℚ), 10, 20] ≠ [] ∧ ∃ figures : Figures ℚ,
      ofSeries (fun x y => decide (x ≤ y)) (fun covered => covered + 1 / 4) [(30 : ℚ), 10, 20]
        = some figures ∧
      figures.count = 3 ∧ figures.min = 10 ∧ figures.max = 30 ∧
      10 ≤ figures.p90 ∧ figures.p90 ≤ figures.p95 ∧ figures.p95 ≤ figures.p99 ∧
      figures.p99 ≤ 30 := by
  have hne : [(30 : ℚ), 10, 20] ≠ [] := List.cons_ne_nil _ _
  rcases (ofSeries_ordered (fun covered => covered + 1 / 4) _ hne).1 with
    ⟨first, rest, -, -, hfigures, -, hordered⟩
  have hten : (10 : ℚ) ∈ [(30 : ℚ), 10, 20] := by decide
  have hthirty : (30 : ℚ) ∈ [(30 : ℚ), 10, 20] := by decide
  have hleast : ∀ x ∈ [(30 : ℚ), 10, 20], 10 ≤ x := by decide
  have hgreatest : ∀ x ∈ [(30 : ℚ), 10, 20], x ≤ 30 := by decide
  have hmin := le_antisymm (hordered.min.2 10 hten) (hleast _ hordered.min.1)
  have hmax := le_antisymm (hgreatest _ hordered.max.1) (hordered.max.2 30 hthirty)
  have hpercentiles := hordered.percentiles
  rw [hmin, hmax] at hpercentiles
  exact ⟨hne, _, hfigures, hordered.count, hmin, hmax, hpercentiles⟩

end Order

end Figures

end PageSweep
