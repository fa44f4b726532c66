import PageSweep.Proofs.Decimal.Comparison
import PageSweep.Stats

/-!
# A Series Has One Order

Doubles are put in order by their bits, and different doubles have different bits. So
a series can be put in order in only one way, and whatever is computed from the sorted
series depends on its values alone, not on the order in which they came in.

The order by bits refines the numeric one. The two part only where a series holds both
zeros: then the numeric order leaves open which one comes first. Without such a pair,
a series that is in numeric order is the sorted series.

## Theorems

* `rank_inj`: Different doubles have different places.
* `rank_le_of_le`: The order by bits refines the numeric order.
* `eq_sorted`: A series in order is the sorted series.
* `eq_sorted_of_le`: So is one in numeric order, unless it holds both zeros.
* `ofValues_perm`: The figures of a series do not depend on its order.
* `ofValues_of_finite`, `ofValues_eq_none_iff`: A series of finite values has figures
  unless it is empty.
-/

namespace PageSweep

namespace Stats

open Decimal

theorem eq_of_toBits (x y : Float) (h : x.toBits = y.toBits) : x = y := by
  rcases x with ⟨⟨bits, hbits⟩⟩
  rcases y with ⟨⟨other, hother⟩⟩
  have hsame : bits = other := h
  subst hsame
  rfl

theorem rank_inj (x y : Float) (h : rank x = rank y) : x = y := by
  have hx : x.toBits.toNat < 0x10000000000000000 := x.toBits.toNat_lt
  have hy : y.toBits.toNat < 0x10000000000000000 := y.toBits.toNat_lt
  refine eq_of_toBits x y (UInt64.toNat_inj.mp ?_)
  simp only [rank] at h
  by_cases hposx : x.toBits.toNat < 0x8000000000000000
  · by_cases hposy : y.toBits.toNat < 0x8000000000000000
    · rw [if_pos hposx, if_pos hposy] at h
      omega
    · rw [if_pos hposx, if_neg hposy] at h
      omega
  · by_cases hposy : y.toBits.toNat < 0x8000000000000000
    · rw [if_neg hposx, if_pos hposy] at h
      omega
    · rw [if_neg hposx, if_neg hposy] at h
      omega

theorem rank_of_signBit (x : Float) (h : signBit x = true) :
    rank x = 0x8000000000000000 - 1 - magnitudeBits x := by
  have hx : x.toBits.toNat < 0x10000000000000000 := x.toBits.toNat_lt
  have hbits : 0x8000000000000000 ≤ x.toBits.toNat := of_decide_eq_true h
  simp only [rank, magnitudeBits]
  rw [if_neg (by omega)]
  omega

theorem rank_of_not_signBit (x : Float) (h : signBit x = false) :
    rank x = 0x8000000000000000 + magnitudeBits x := by
  have hbits : ¬ (0x8000000000000000 ≤ x.toBits.toNat) := of_decide_eq_false h
  simp only [rank, magnitudeBits]
  rw [if_pos (by omega)]
  omega

theorem eq_zero_of_bits (x : Float) (hsign : signBit x = false) (h : magnitudeBits x = 0) :
    x = 0.0 := by
  refine rank_inj _ _ ?_
  rw [rank_of_not_signBit x hsign, h]
  decide

theorem eq_neg_zero_of_bits (x : Float) (hsign : signBit x = true) (h : magnitudeBits x = 0) :
    x = -0.0 := by
  refine rank_inj _ _ ?_
  rw [rank_of_signBit x hsign, h]
  decide

theorem rank_le_of_le (x y : Float) (hx : isFinite x = true) (hy : isFinite y = true)
    (hle : x ≤ y) (hzeros : ¬ (x = 0.0 ∧ y = -0.0)) : rank x ≤ rank y := by
  rw [le_iff_bits x y hx hy] at hle
  cases hsx : signBit x with
  | false =>
      cases hsy : signBit y with
      | false =>
          rw [hsx, hsy] at hle
          rw [rank_of_not_signBit x hsx, rank_of_not_signBit y hsy]
          omega
      | true =>
          -- A positive double is not above a negative one only if both are zeros.
          rw [hsx, hsy] at hle
          exact absurd ⟨eq_zero_of_bits x hsx hle.1, eq_neg_zero_of_bits y hsy hle.2⟩ hzeros
  | true =>
      cases hsy : signBit y with
      | false =>
          rw [rank_of_signBit x hsx, rank_of_not_signBit y hsy]
          omega
      | true =>
          rw [hsx, hsy] at hle
          rw [rank_of_signBit x hsx, rank_of_signBit y hsy]
          omega

section Series

variable (values arranged : List Float)

theorem sorted_perm : (sorted values).Perm values :=
  List.mergeSort_perm _ _

theorem pairwise_sorted : (sorted values).Pairwise fun x y => rank x ≤ rank y := by
  have htrans : ∀ x y z : Float, decide (rank x ≤ rank y) = true →
      decide (rank y ≤ rank z) = true → decide (rank x ≤ rank z) = true := by
    intro x y z hxy hyz
    simp only [decide_eq_true_eq] at hxy hyz ⊢
    omega
  have htotal : ∀ x y : Float, (decide (rank x ≤ rank y) || decide (rank y ≤ rank x)) = true := by
    intro x y
    simp only [Bool.or_eq_true, decide_eq_true_eq]
    omega
  exact (List.pairwise_mergeSort htrans htotal values).imp of_decide_eq_true

theorem eq_sorted (hperm : arranged.Perm values)
    (hpair : arranged.Pairwise fun x y => rank x ≤ rank y) : arranged = sorted values := by
  refine List.Perm.eq_of_pairwise (fun x y _ _ hxy hyx => ?_) hpair (pairwise_sorted values)
    (hperm.trans (sorted_perm values).symm)
  exact rank_inj x y (Nat.le_antisymm hxy hyx)

theorem eq_sorted_of_le (hperm : arranged.Perm values)
    (hfinite : ∀ x ∈ values, isFinite x = true)
    (hzeros : ¬ ((0.0 : Float) ∈ values ∧ (-0.0 : Float) ∈ values))
    (hpair : arranged.Pairwise fun x y => x ≤ y) : arranged = sorted values := by
  refine eq_sorted values arranged hperm (hpair.imp_of_mem fun {x y} hx hy hle => ?_)
  have hxv := hperm.mem_iff.mp hx
  have hyv := hperm.mem_iff.mp hy
  refine rank_le_of_le x y (hfinite x hxv) (hfinite y hyv) hle ?_
  rintro ⟨rfl, rfl⟩
  exact hzeros ⟨hxv, hyv⟩

theorem ofValues_perm (other : List Float) (hperm : values.Perm other) :
    ofValues values = ofValues other := by
  have hsorted : sorted values = sorted other :=
    eq_sorted other _ ((sorted_perm values).trans hperm) (pairwise_sorted values)
  unfold ofValues
  rw [hsorted, hperm.all_eq]

theorem sorted_eq_nil_iff : sorted values = [] ↔ values = [] := by
  rw [← List.length_eq_zero_iff, (sorted_perm values).length_eq, List.length_eq_zero_iff]

theorem ofValues_of_finite (hfinite : ∀ x ∈ values, isFinite x = true) :
    ∃ stats, ofValues values = .ok stats ∧
      ∀ figures, stats = some figures → figures.med = Figures.median (sorted values) := by
  unfold ofValues
  rw [if_pos (List.all_eq_true.mpr hfinite)]
  cases sorted values with
  | nil => exact ⟨none, rfl, fun figures hsome => by simp only [reduceCtorEq] at hsome⟩
  | cons first rest =>
      refine ⟨some _, rfl, fun figures hsome => ?_⟩
      rw [← Option.some.inj hsome]
      rfl

/-- A series with a value that is not finite is refused. -/
theorem ofValues_of_not_finite (x : Float) (hx : x ∈ values) (hfinite : isFinite x = false) :
    ofValues values = .error .notFinite := by
  unfold ofValues
  rw [if_neg]
  intro hall
  have hc := List.all_eq_true.mp hall x hx
  rw [hfinite] at hc
  exact Bool.false_ne_true hc

theorem ofValues_eq_none_iff : ofValues values = .ok none ↔ values = [] := by
  unfold ofValues
  have hnil := sorted_eq_nil_iff values
  by_cases h : values.all isFinite = true
  · rw [if_pos h]
    cases hsorted : sorted values with
    | nil =>
        rw [hsorted] at hnil
        exact ⟨fun _ => hnil.mp rfl, fun _ => rfl⟩
    | cons first rest =>
        rw [hsorted] at hnil
        simp only [Except.ok.injEq, reduceCtorEq, false_iff]
        exact fun hc => absurd (hnil.mpr hc) (List.cons_ne_nil first rest)
  · rw [if_neg h]
    simp only [reduceCtorEq, false_iff]
    rintro rfl
    exact h rfl

end Series

end Stats

end PageSweep
