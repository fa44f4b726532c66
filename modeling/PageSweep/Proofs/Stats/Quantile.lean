import PageSweep.Proofs.Stats.Merging

/-!
# Quantiles Rise

A quantile is read off a line through the means of the centroids. Each centroid stands in
the middle of its values, so the line has a corner half a centroid behind the beginning of
each; it starts at the least value and ends towards the greatest. Between two corners the
line does not fall, because the means are in order, and at a corner both sides agree. So
the line rises over the whole series and stays between the extremes.

The last piece is less steep than the values would allow: it is divided by almost the
whole size of the series and not by half of the last centroid. It still starts at the last
mean and does not get beyond the greatest value.

## Main definitions

* `Digest.Behind`: The centroids from one on, with what lies before them.
* `Digest.valueAt`: The value of the line at a place.

## Theorems

* `locate_bounds`: A place behind a mean has a value from that mean to the greatest value.
* `locate_mono`: Later places have greater values.
* `quantile_mono`: So have greater shares of a series, and all quantiles exist.
-/

namespace PageSweep

namespace Digest

open Arith

variable (size greatest : ℚ)

section Locate

theorem locate_nil (place before : ℚ) (previous : Centroid ℚ) :
    locate place size greatest before previous []
      = between (mean previous) greatest
          ((place - (before - previous.count / 2)) / (size - previous.count / 2)) := rfl

theorem locate_cons (place before : ℚ) (previous next : Centroid ℚ) (rest : List (Centroid ℚ)) :
    locate place size greatest before previous (next :: rest)
      = if place ≤ before + next.count / 2 then
          between (mean previous) (mean next)
            ((place - (before - previous.count / 2)) / ((previous.count + next.count) / 2))
        else locate place size greatest (before + next.count) next rest := rfl

/-- The centroid `previous` and those after it, where `before` values lie before them,
those of `previous` included. -/
structure Behind (before : ℚ) (previous : Centroid ℚ) (rest : List (Centroid ℚ)) : Prop where
  sorted : Sorted (previous :: rest)
  count : ∀ c ∈ previous :: rest, 0 < c.count
  high : ∀ c ∈ previous :: rest, mean c ≤ greatest
  covered : previous.count ≤ before
  size : before + (rest.map Centroid.count).sum = size

variable {size greatest} {before : ℚ} {previous next : Centroid ℚ} {rest : List (Centroid ℚ)}

theorem Behind.tail (h : Behind size greatest before previous (next :: rest)) :
    Behind size greatest (before + next.count) next rest := by
  have hprevious := h.count previous List.mem_cons_self
  have hcovered := h.covered
  have hsize := h.size
  rw [List.map_cons, List.sum_cons] at hsize
  refine ⟨(List.pairwise_cons.mp h.sorted).2, fun c hc => h.count c (List.mem_cons_of_mem _ hc),
    fun c hc => h.high c (List.mem_cons_of_mem _ hc), by linarith, by linarith⟩

theorem Behind.mean_le (h : Behind size greatest before previous (next :: rest)) :
    mean previous ≤ mean next :=
  (List.pairwise_cons.mp h.sorted).1 next List.mem_cons_self

/-- The way from the middle of one centroid to that of the next. -/
theorem Behind.step_pos (h : Behind size greatest before previous (next :: rest)) :
    0 < (previous.count + next.count) / 2 := by
  have hprevious := h.count previous List.mem_cons_self
  have hnext := h.count next (List.mem_cons_of_mem _ List.mem_cons_self)
  linarith

/-- At the end of a series there is nothing after the last centroid. -/
theorem Behind.last_pos (h : Behind size greatest before previous []) :
    0 < size - previous.count / 2 := by
  have hprevious := h.count previous List.mem_cons_self
  have hcovered := h.covered
  have hsize := h.size
  rw [List.map_nil, List.sum_nil, add_zero] at hsize
  linarith

theorem locate_bounds (h : Behind size greatest before previous rest) (place : ℚ)
    (hlow : before - previous.count / 2 ≤ place) (hhigh : place ≤ size) :
    mean previous ≤ locate place size greatest before previous rest ∧
      locate place size greatest before previous rest ≤ greatest := by
  induction rest generalizing before previous with
  | nil =>
      have hmean := h.high previous List.mem_cons_self
      have hlength := h.last_pos
      have hcovered := h.covered
      have hsize := h.size
      rw [List.map_nil, List.sum_nil, add_zero] at hsize
      rw [locate_nil]
      refine ⟨le_between _ _ _ hmean ?_, between_le _ _ _ hmean ?_⟩
      · exact div_nonneg (sub_nonneg.mpr hlow) (le_of_lt hlength)
      · rw [div_le_one hlength]
        linarith
  | cons next rest ih =>
      have hmean := h.mean_le
      have hstep := h.step_pos
      have hnext := h.high next (List.mem_cons_of_mem _ List.mem_cons_self)
      rw [locate_cons]
      by_cases hplace : place ≤ before + next.count / 2
      · rw [if_pos hplace]
        refine ⟨le_between _ _ _ hmean ?_, le_trans (between_le _ _ _ hmean ?_) hnext⟩
        · exact div_nonneg (sub_nonneg.mpr hlow) (le_of_lt hstep)
        · rw [div_le_one hstep]
          linarith
      · rw [if_neg hplace]
        have hbehind := ih h.tail (by linarith)
        exact ⟨le_trans hmean hbehind.1, hbehind.2⟩

/-- Later places have greater values: on one piece of the line, and from one to another
by way of the mean between them. -/
theorem locate_mono (h : Behind size greatest before previous rest) (s t : ℚ)
    (hlow : before - previous.count / 2 ≤ s) (hst : s ≤ t) (hhigh : t ≤ size) :
    locate s size greatest before previous rest
      ≤ locate t size greatest before previous rest := by
  induction rest generalizing before previous with
  | nil =>
      rw [locate_nil, locate_nil]
      refine between_mono _ _ _ _ (h.high previous List.mem_cons_self) ?_
      exact div_le_div_of_nonneg_right (sub_le_sub_right hst _) (le_of_lt h.last_pos)
  | cons next rest ih =>
      have hmean := h.mean_le
      have hstep := h.step_pos
      rw [locate_cons, locate_cons]
      -- Both places lie before the next mean, or only the first one, or none of them.
      by_cases ht : t ≤ before + next.count / 2
      · rw [if_pos ht, if_pos (le_trans hst ht)]
        refine between_mono _ _ _ _ hmean ?_
        exact div_le_div_of_nonneg_right (sub_le_sub_right hst _) (le_of_lt hstep)
      · rw [if_neg ht]
        by_cases hs : s ≤ before + next.count / 2
        · rw [if_pos hs]
          have hnear : between (mean previous) (mean next)
              ((s - (before - previous.count / 2)) / ((previous.count + next.count) / 2))
                ≤ mean next := by
            refine between_le _ _ _ hmean ?_
            rw [div_le_one hstep]
            linarith
          exact le_trans hnear (locate_bounds h.tail t (by linarith) hhigh).1
        · rw [if_neg hs]
          exact ih h.tail (by linarith)

end Locate

section Line

/-- The value at a place of a series of centroids. -/
def valueAt (least greatest place : ℚ) (first : Centroid ℚ) (rest : List (Centroid ℚ)) : ℚ :=
  if place ≤ first.count / 2 then between least (mean first) (place / (first.count / 2))
  else locate place (total (first :: rest)) greatest first.count first rest

theorem quantileOf_cons (least q : ℚ) (first : Centroid ℚ) (rest : List (Centroid ℚ)) :
    quantileOf least greatest q (first :: rest)
      = some (valueAt least greatest (total (first :: rest) * q) first rest) := by
  have hbefore : (ofNat 0 : ℚ) + first.count = first.count := by
    rw [ofNat_eq, Nat.cast_zero, zero_add]
  unfold quantileOf valueAt
  simp only [half_eq, hbefore]
  split
  · rfl
  · rfl

variable (least : ℚ) (first : Centroid ℚ) (rest : List (Centroid ℚ))
variable (hwithin : ∀ c ∈ first :: rest, Within least greatest c) (hsorted : Sorted (first :: rest))

include hwithin hsorted

theorem behind_first : Behind (total (first :: rest)) greatest first.count first rest := by
  refine ⟨hsorted, fun c hc => (hwithin c hc).count, fun c hc => (hwithin c hc).high, le_refl _, ?_⟩
  rw [total_eq_sum, List.map_cons, List.sum_cons]

theorem valueAt_bounds (place : ℚ) (hlow : 0 ≤ place) (hhigh : place ≤ total (first :: rest)) :
    least ≤ valueAt least greatest place first rest ∧
      valueAt least greatest place first rest ≤ greatest := by
  have hfirst := hwithin first List.mem_cons_self
  have hhalf : 0 < first.count / 2 := half_pos hfirst.count
  unfold valueAt
  by_cases hplace : place ≤ first.count / 2
  · rw [if_pos hplace]
    refine ⟨le_between _ _ _ hfirst.low (div_nonneg hlow (le_of_lt hhalf)), ?_⟩
    exact le_trans (between_le _ _ _ hfirst.low ((div_le_one hhalf).mpr hplace)) hfirst.high
  · rw [if_neg hplace]
    have hbounds := locate_bounds (behind_first greatest least first rest hwithin hsorted) place
      (by linarith) hhigh
    exact ⟨le_trans hfirst.low hbounds.1, hbounds.2⟩

theorem valueAt_mono (s t : ℚ) (hst : s ≤ t) (hhigh : t ≤ total (first :: rest)) :
    valueAt least greatest s first rest ≤ valueAt least greatest t first rest := by
  have hfirst := hwithin first List.mem_cons_self
  have hhalf : 0 < first.count / 2 := half_pos hfirst.count
  have hbehind := behind_first greatest least first rest hwithin hsorted
  unfold valueAt
  by_cases ht : t ≤ first.count / 2
  · rw [if_pos ht, if_pos (le_trans hst ht)]
    exact between_mono _ _ _ _ hfirst.low (div_le_div_of_nonneg_right hst (le_of_lt hhalf))
  · rw [if_neg ht]
    by_cases hs : s ≤ first.count / 2
    · rw [if_pos hs]
      have hnear := between_le least (mean first) (s / (first.count / 2)) hfirst.low
        ((div_le_one hhalf).mpr hs)
      exact le_trans hnear (locate_bounds hbehind t (by linarith) hhigh).1
    · rw [if_neg hs]
      exact locate_mono hbehind s t (by linarith) hst hhigh

end Line

section Quantile

variable (limitAfter : ℚ → ℚ)

theorem extremes_merge (d : Digest ℚ) :
    (d.merge limitAfter).least = d.least ∧ (d.merge limitAfter).greatest = d.greatest := by
  unfold merge
  by_cases h : d.backlog.isEmpty
  · rw [if_pos h]
    exact ⟨rfl, rfl⟩
  · rw [if_neg h]
    exact ⟨rfl, rfl⟩

/-- A digest that is merged has centroids, since it has values. -/
theorem Sound.exists_centroid (values : List ℚ) (d : Digest ℚ) (h : Sound values d)
    (hmerged : d.backlog = []) : ∃ first rest, d.centroids = first :: rest := by
  cases hcentroids : d.centroids with
  | nil =>
      have hcount := h.count
      have hlength : values.length ≠ 0 := (List.length_pos_of_mem h.least.1).ne'
      rw [hcentroids, hmerged, List.append_nil] at hcount
      have hzero : ((0 : Nat) : ℚ) = values.length := hcount
      exact absurd (Nat.cast_inj.mp hzero).symm hlength
  | cons first rest => exact ⟨first, rest, rfl⟩

/-- Every share of a series has a quantile, and a greater share has a greater one. -/
theorem quantile_mono (values : List ℚ) (d : Digest ℚ) (h : Grown limitAfter values d) (q r : ℚ)
    (hlow : 0 ≤ q) (hqr : q ≤ r) (hhigh : r ≤ 1) :
    ∃ v w, d.quantile limitAfter q = some v ∧ d.quantile limitAfter r = some w ∧
      d.least ≤ v ∧ v ≤ w ∧ w ≤ d.greatest := by
  have hsound := sound_of_grown limitAfter values _ (Grown.merge values d h)
  have hmerged := backlog_merge limitAfter d
  have hextremes := extremes_merge limitAfter d
  rcases hsound.exists_centroid _ _ hmerged with ⟨first, rest, hcentroids⟩
  have hwithin := hsound.within
  have hsorted := hsound.sorted
  have hcount := hsound.count
  rw [hmerged, List.append_nil, hcentroids] at hwithin hcount
  rw [hcentroids] at hsorted
  rw [hextremes.1, hextremes.2] at hwithin
  -- The places of the two shares lie on the line, one behind the other.
  have hsize : 0 ≤ total (first :: rest) := by
    rw [hcount]
    exact Nat.cast_nonneg _
  have hplace : total (first :: rest) * q ≤ total (first :: rest) * r :=
    mul_le_mul_of_nonneg_left hqr hsize
  have hstart : 0 ≤ total (first :: rest) * q := mul_nonneg hsize hlow
  have hend : total (first :: rest) * r ≤ total (first :: rest) :=
    mul_le_of_le_one_right hsize hhigh
  have hquantile : ∀ share, d.quantile limitAfter share
      = some (valueAt d.least d.greatest (total (first :: rest) * share) first rest) := by
    intro share
    rw [quantile, hcentroids, hextremes.1, hextremes.2, quantileOf_cons]
  refine ⟨_, _, hquantile q, hquantile r, ?_, ?_, ?_⟩
  · exact (valueAt_bounds _ _ first rest hwithin hsorted _ hstart (le_trans hplace hend)).1
  · exact valueAt_mono _ _ first rest hwithin hsorted _ _ hplace hend
  · exact (valueAt_bounds _ _ first rest hwithin hsorted _ (le_trans hstart hplace) hend).2

end Quantile

end Digest

end PageSweep
