import Mathlib.Algebra.Order.BigOperators.Group.List
import Mathlib.Algebra.Order.Field.Basic
import Mathlib.Algebra.Order.Field.Rat
import Mathlib.Tactic.FieldSimp
import Mathlib.Tactic.Linarith
import Mathlib.Tactic.Ring
import PageSweep.Stats.Figures

/-!
# Digests in Exact Arithmetic

The digest and the figures are computed in any number system. The rational numbers are
one in which nothing is rounded, so what holds there is what the method of the digest
does, apart from the errors of doubles.

A centroid of exact numbers has a mean above a bound if its sum is above the bound times
its count. In this form a bound passes from two centroids to the one they are fused to,
without a division.

## Main definitions

* `Digest.Within`: A centroid stands for values between two bounds.

## Theorems

* `le_mean_fuse`, `mean_fuse_le`: Fusing keeps bounds of the mean.
* `le_between`, `between_le`, `between_mono`: What is interpolated between two numbers.
-/

namespace PageSweep

instance : Arith ℚ where
  atMost := fun x y => inferInstanceAs (Decidable (x ≤ y))
  ofNat := fun n => (n : ℚ)

namespace Digest

open Arith

@[simp]
theorem ofNat_eq (n : Nat) : (ofNat n : ℚ) = n := rfl

@[simp]
theorem half_eq (x : ℚ) : half x = x / 2 := rfl

theorem mean_eq (c : Centroid ℚ) : mean c = c.sum / c.count := rfl

@[simp]
theorem sum_fuse (c d : Centroid ℚ) : (fuse c d).sum = c.sum + d.sum := rfl

@[simp]
theorem count_fuse (c d : Centroid ℚ) : (fuse c d).count = c.count + d.count := rfl

theorem total_eq_sum (centroids : List (Centroid ℚ)) :
    total centroids = (centroids.map Centroid.count).sum := by
  have hfold : ∀ (rest : List (Centroid ℚ)) (n : ℚ),
      rest.foldl (fun n c => n + c.count) n = n + (rest.map Centroid.count).sum := by
    intro rest
    induction rest with
    | nil =>
        intro n
        exact (add_zero n).symm
    | cons c rest ih =>
        intro n
        rw [List.foldl_cons, ih, List.map_cons, List.sum_cons, add_assoc]
  have hzero : (ofNat 0 : ℚ) = 0 := rfl
  have htotal : total centroids
      = centroids.foldl (fun n c => n + c.count) (ofNat 0 : ℚ) := rfl
  rw [htotal, hfold, hzero, zero_add]

/-- Sorting by a key puts the keys in order. -/
theorem pairwise_mergeSort {β : Type} (key : β → ℚ) (items : List β) :
    (items.mergeSort fun x y => decide (key x ≤ key y)).Pairwise fun x y => key x ≤ key y := by
  have htrans : ∀ x y z : β, decide (key x ≤ key y) = true → decide (key y ≤ key z) = true →
      decide (key x ≤ key z) = true := fun x y z hxy hyz =>
    decide_eq_true (le_trans (of_decide_eq_true hxy) (of_decide_eq_true hyz))
  have htotal : ∀ x y : β, (decide (key x ≤ key y) || decide (key y ≤ key x)) = true := by
    intro x y
    rcases le_total (key x) (key y) with h | h
    · rw [decide_eq_true h, Bool.true_or]
    · rw [decide_eq_true h, Bool.or_true]
  exact (List.pairwise_mergeSort htrans htotal items).imp fun h => of_decide_eq_true h

section Mean

theorem le_mean_iff (low : ℚ) (c : Centroid ℚ) (h : 0 < c.count) :
    low ≤ mean c ↔ low * c.count ≤ c.sum := by
  rw [mean_eq, le_div_iff₀ h]

theorem mean_le_iff (high : ℚ) (c : Centroid ℚ) (h : 0 < c.count) :
    mean c ≤ high ↔ c.sum ≤ high * c.count := by
  rw [mean_eq, div_le_iff₀ h]

variable (c d : Centroid ℚ)

theorem count_fuse_pos (hc : 0 < c.count) (hd : 0 < d.count) : 0 < (fuse c d).count :=
  add_pos hc hd

theorem le_mean_fuse (low : ℚ) (hc : 0 < c.count) (hd : 0 < d.count) (hlow : low ≤ mean c)
    (hother : low ≤ mean d) : low ≤ mean (fuse c d) := by
  rw [le_mean_iff low _ (count_fuse_pos c d hc hd), count_fuse, sum_fuse, mul_add]
  exact add_le_add ((le_mean_iff low c hc).mp hlow) ((le_mean_iff low d hd).mp hother)

theorem mean_fuse_le (high : ℚ) (hc : 0 < c.count) (hd : 0 < d.count) (hhigh : mean c ≤ high)
    (hother : mean d ≤ high) : mean (fuse c d) ≤ high := by
  rw [mean_le_iff high _ (count_fuse_pos c d hc hd), count_fuse, sum_fuse, mul_add]
  exact add_le_add ((mean_le_iff high c hc).mp hhigh) ((mean_le_iff high d hd).mp hother)

/-- A centroid stands for at least one value, and its mean lies from `low` to `high`. -/
structure Within (low high : ℚ) (c : Centroid ℚ) : Prop where
  count : 0 < c.count
  low : low ≤ mean c
  high : mean c ≤ high

theorem Within.fuse (low high : ℚ) (hc : Within low high c) (hd : Within low high d) :
    Within low high (Digest.fuse c d) :=
  ⟨count_fuse_pos c d hc.count hd.count,
    le_mean_fuse c d low hc.count hd.count hc.low hd.low,
    mean_fuse_le c d high hc.count hd.count hc.high hd.high⟩

theorem Within.mono (low high below above : ℚ) (h : Within low high c) (hlow : below ≤ low)
    (hhigh : high ≤ above) : Within below above c :=
  ⟨h.count, le_trans hlow h.low, le_trans h.high hhigh⟩

end Mean

section Between

variable (a b : ℚ)

theorem between_eq (t : ℚ) : between a b t = a + t * (b - a) := by
  have hbetween : between a b t = t * b + (((1 : Nat) : ℚ) - t) * a := rfl
  rw [hbetween, Nat.cast_one]
  ring

theorem le_between (t : ℚ) (h : a ≤ b) (ht : 0 ≤ t) : a ≤ between a b t := by
  have hstep := mul_nonneg ht (sub_nonneg.mpr h)
  rw [between_eq]
  linarith

theorem between_le (t : ℚ) (h : a ≤ b) (ht : t ≤ 1) : between a b t ≤ b := by
  have hrest := mul_nonneg (sub_nonneg.mpr ht) (sub_nonneg.mpr h)
  rw [sub_mul, one_mul] at hrest
  rw [between_eq]
  linarith

theorem between_mono (s t : ℚ) (h : a ≤ b) (hst : s ≤ t) : between a b s ≤ between a b t := by
  have hstep := mul_le_mul_of_nonneg_right hst (sub_nonneg.mpr h)
  rw [between_eq, between_eq]
  linarith

end Between

end Digest

end PageSweep
