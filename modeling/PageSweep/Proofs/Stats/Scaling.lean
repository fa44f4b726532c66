import PageSweep.Proofs.Decimal.Error
import PageSweep.Proofs.Decimal.Printed

/-!
# Milliseconds in Other Units

A latency is brought to its unit by one multiplication or division, and this is the only
place where something is lost. The minutes are exact. The quotient that they are the whole
part of is rounded, but it is not rounded over a whole number: a double below a whole
number is below it by more than rounding can make up for. What is left over after the
minutes is a double too, because it has no more places than the latency.

## Theorems

* `le_of_lt_natCast`: How far below a whole number a double is.
* `div_thousand`, `mul_thousand`: What is lost.
* `exists_minutes`: The minutes of a latency.
* `amount_rest`: What is left over after the minutes.
-/

namespace PageSweep

namespace Latency

open Decimal

section Constants

theorem amount_thousand : Amount 1000.0 ∧ amount 1000.0 = 1000 := by
  have h := amount_of_bits (1000 * 2 ^ 43) (-43) 1000.0
    ⟨by decide, by decide, Or.inl (by decide)⟩ (by decide) (by decide +kernel)
  exact ⟨h.1, h.2.trans (scaled_cancel 1000 43)⟩

theorem amount_minute : Amount 60000.0 ∧ amount 60000.0 = 60000 := by
  have h := amount_of_bits (60000 * 2 ^ 37) (-37) 60000.0
    ⟨by decide, by decide, Or.inl (by decide)⟩ (by decide) (by decide +kernel)
  exact ⟨h.1, h.2.trans (scaled_cancel 60000 37)⟩

end Constants

section Places

variable (x : Float) (hone : 1 ≤ amount x) (hlt : amount x < 2 ^ 53)
include hone hlt

/-- A latency of a millisecond or more has 52 binary places at most. -/
theorem exists_places : ∃ m d : Nat, amount x = scaled m (-d) ∧ m < 2 ^ 53 ∧ d ≤ 52 := by
  have hcanonical := canonical_bits (magnitudeBits x)
  unfold amount at *
  generalize mantissaOf (magnitudeBits x) = m at *
  generalize exponentOf (magnitudeBits x) = e at *
  have he := exponent_nonpos m e hcanonical hlt
  obtain ⟨d, hd⟩ := Int.eq_ofNat_of_zero_le (by omega : 0 ≤ -e)
  have hexponent : e = -(d : Int) := by omega
  subst hexponent
  refine ⟨m, d, rfl, hcanonical.lt, ?_⟩
  -- With more places there would be no bit left for the whole number.
  by_contra hlong
  have hbelow : scaled m (-d) < 1 := by
    calc scaled m (-d) < scaled (2 ^ 53) (-d) := (scaled_lt_iff _ _ _).mpr hcanonical.lt
      _ = scaled 1 (-d + (53 : Nat)) := scaled_two_pow _ 53
      _ ≤ 1 := scaled_le_one _ (by omega)
  exact absurd hone (not_le.mpr hbelow)

/-- A double that is below a whole number is so by one part in 2^53 at least. -/
theorem le_of_lt_natCast (n : Nat) (h : amount x < n) : amount x ≤ n - n / 2 ^ 53 := by
  rcases exists_places x hone hlt with ⟨m, d, hx, hm, -⟩
  have hn : (n : ℚ) = scaled (n * 2 ^ d) (-d) := (scaled_cancel n d).symm
  rw [hx, hn] at h
  have hless := (scaled_lt_iff _ _ _).mp h
  -- Seen in units of the last place, there is one unit between the two, or the mantissa
  -- is short of its greatest value by one.
  have hgap : (m : ℚ) ≤ (n * 2 ^ d : Nat) - (n * 2 ^ d : Nat) / 2 ^ 53 := by
    have hnext : (m : ℚ) + 1 ≤ (n * 2 ^ d : Nat) := by exact_mod_cast hless
    have hlong : (m : ℚ) + 1 ≤ (2 ^ 53 : Nat) := by exact_mod_cast hm
    rcases Nat.le_total (n * 2 ^ d) (2 ^ 53) with hsmall | hlarge
    · have hbound : ((n * 2 ^ d : Nat) : ℚ) ≤ (2 ^ 53 : Nat) := Nat.cast_le.mpr hsmall
      push_cast at *
      linarith
    · have hbound : ((2 ^ 53 : Nat) : ℚ) ≤ (n * 2 ^ d : Nat) := Nat.cast_le.mpr hlarge
      push_cast at *
      linarith
  calc amount x = m * 2 ^ (-(d : Int)) := hx
    _ ≤ ((n * 2 ^ d : Nat) - (n * 2 ^ d : Nat) / 2 ^ 53) * 2 ^ (-(d : Int)) :=
      mul_le_mul_of_nonneg_right hgap (two_zpow_pos (-d)).le
    _ = n - n / 2 ^ 53 := by
      rw [sub_mul, div_mul_eq_mul_div]
      change scaled (n * 2 ^ d) (-d) - scaled (n * 2 ^ d) (-d) / 2 ^ 53 = _
      rw [← hn]

/-- What lies above a whole number has the same places. -/
theorem exists_rest (n : Nat) (h : n ≤ amount x) :
    ∃ j d : Nat, amount x - n = scaled j (-d) ∧ j < 2 ^ 53 ∧ d ≤ 52 := by
  rcases exists_places x hone hlt with ⟨m, d, hx, hm, hd⟩
  have hn : (n : ℚ) = scaled (n * 2 ^ d) (-d) := (scaled_cancel n d).symm
  rw [hx, hn] at h
  have hle := (scaled_le_iff _ _ _).mp h
  refine ⟨m - n * 2 ^ d, d, ?_, by omega, hd⟩
  rw [hx, hn, scaled_sub _ _ _ hle]

end Places

section Thousand

variable (x : Float) (hx : Amount x)
include hx

/-- Milliseconds in seconds. -/
theorem div_thousand (hplaces : amount x = 0 ∨ scaled 1 (-52) ≤ amount x)
    (hle : amount x ≤ 60000) :
    Amount (x / 1000.0) ∧ amount (x / 1000.0) ≤ 60 ∧
    |amount (x / 1000.0) * 1000 - amount x| ≤ amount x / 2 ^ 53 := by
  rcases amount_thousand with ⟨hthousand, hvalue⟩
  have hpos : 0 < amount 1000.0 := by
    rw [hvalue]
    norm_num
  have hquotient : amount x / amount 1000.0 ≤ (60 : Nat) := by
    rw [hvalue]
    push_cast
    linarith
  have hsmall := hquotient.trans (natCast_le_largest 60 (by decide))
  rcases amount_div x 1000.0 hx hthousand hpos hsmall with ⟨hamount, hrounds⟩
  have hclose := close_div x 1000.0 hx hthousand hpos hsmall
  refine ⟨hamount, ((hrounds _ (grid_natCast 60 (by decide))).1 hquotient).trans (by norm_num), ?_⟩
  rw [hvalue] at hrounds hclose
  rcases hplaces with hzero | hplaces
  · rw [hzero, zero_div] at hrounds
    rw [eq_of_rounds 0 _ (grid_natCast 0 (by decide)) hrounds, hzero]
    norm_num
  · -- A number with so few places is not below the normal ones.
    have hnormal : scaled 1 (-1022) ≤ amount x / 1000 := by
      have hless : scaled (2 ^ 10) (-1022) ≤ amount x := by
        rw [scaled_two_pow]
        exact (scaled_le_of_exponent_le _ _ _ (by decide)).trans hplaces
      have hfactor : scaled 1000 (-1022) = scaled 1 (-1022) * 1000 := by
        unfold scaled
        ring
      have hbelow := (scaled_le_of_le 1000 (2 ^ 10) (-1022) (by decide)).trans hless
      rw [hfactor] at hbelow
      linarith
    have hnear := abs_le.mp (hclose hnormal)
    rw [abs_le]
    constructor <;> linarith [hnear.1, hnear.2]

/-- Milliseconds in microseconds. -/
theorem mul_thousand (hlt : amount x < 1) :
    Amount (x * 1000.0) ∧ amount (x * 1000.0) ≤ 1000 ∧
    |amount (x * 1000.0) - amount x * 1000| ≤ amount x * 1000 / 2 ^ 53 := by
  rcases amount_thousand with ⟨hthousand, hvalue⟩
  have hproduct : amount x * amount 1000.0 ≤ (1000 : Nat) := by
    rw [hvalue]
    push_cast
    linarith
  have hsmall := hproduct.trans (natCast_le_largest 1000 (by decide))
  rcases amount_mul x 1000.0 hx hthousand hsmall with ⟨hamount, hrounds⟩
  have hclose := close_mul x 1000.0 hx hthousand hsmall
  refine ⟨hamount, ((hrounds _ (grid_natCast 1000 (by decide))).1 hproduct).trans (by norm_num), ?_⟩
  rw [hvalue] at hrounds hclose
  by_cases hnormal : scaled 1 (-1022) ≤ amount x * 1000
  · exact hclose hnormal
  · -- A product below the normal numbers is a double itself.
    have hgrid : Grid (amount x * 1000) := by
      have hcanonical := canonical_bits (magnitudeBits x)
      have hnonneg := amount_nonneg x
      unfold amount at *
      generalize mantissaOf (magnitudeBits x) = m at *
      generalize exponentOf (magnitudeBits x) = e at *
      have hbelow := not_le.mp hnormal
      have hexponent : e = -1074 := by
        refine hcanonical.normal.resolve_left fun hlong => ?_
        have hleast := hcanonical.least
        have hlarge : scaled 1 (-1022) ≤ scaled m e := by
          refine le_trans ?_ (scaled_le_of_le _ _ e hlong)
          rw [scaled_two_pow]
          exact scaled_le_of_exponent_le _ _ _ (by push_cast; omega)
        linarith
      have hfactor : scaled m e * 1000 = scaled (m * 1000) e := by
        unfold scaled
        push_cast
        ring
      have hleast : scaled 1 (-1022) = scaled (2 ^ 52) (-1074) :=
        (congrArg (scaled 1) (by decide)).trans (scaled_two_pow (-1074) 52).symm
      rw [hfactor, hexponent] at hbelow ⊢
      rw [hleast] at hbelow
      have hshort := (scaled_lt_iff _ _ _).mp hbelow
      exact grid_scaled _ _ (by omega) (le_refl _)
    rw [eq_of_rounds _ _ hgrid hrounds, sub_self, abs_zero]
    have hnonneg := amount_nonneg x
    linarith

end Thousand

section Minutes

variable (ms : Float) (hms : Amount ms) (hlow : 60000 ≤ amount ms) (hlt : amount ms < 2 ^ 53)
include hms hlow hlt

/-- The minutes of a latency. -/
theorem exists_minutes :
    ∃ k : Nat, floor (ms / 60000.0) = Float.ofNat k ∧ k < 2 ^ 38 ∧
      60000 * (k : ℚ) ≤ amount ms ∧ amount ms < 60000 * (k + 1) := by
  rcases amount_minute with ⟨hminute, hvalue⟩
  have hpos : 0 < amount 60000.0 := by
    rw [hvalue]
    norm_num
  have hquotient : amount ms / amount 60000.0 ≤ (2 ^ 38 : Nat) := by
    rw [hvalue]
    push_cast
    linarith
  have hsmall := hquotient.trans (natCast_le_largest (2 ^ 38) (by decide))
  rcases amount_div ms 60000.0 hms hminute hpos hsmall with ⟨hamount, hrounds⟩
  have hclose := close_div ms 60000.0 hms hminute hpos hsmall
  rw [hvalue] at hrounds hclose
  rcases exists_floor (ms / 60000.0) hamount with ⟨k, hfloor, hle, hgt⟩
  have hnormal : scaled 1 (-1022) ≤ amount ms / 60000 :=
    (scaled_le_one (-1022) (by decide)).trans (by linarith)
  have hnear := abs_le.mp (hclose hnormal)
  have hwhole : 60000 * (k : ℚ) ≤ amount ms := by
    by_contra hless
    have hgap := le_of_lt_natCast ms (by linarith) hlt (60000 * k) (by
      push_cast
      exact not_le.mp hless)
    push_cast at hgap
    -- The quotient would be below `k` by more than it can be rounded up.
    linarith [hnear.2]
  have hk : k < 2 ^ 38 := by
    have hbound : (k : ℚ) < (2 ^ 38 : Nat) := by
      push_cast
      linarith
    exact Nat.cast_lt.mp hbound
  refine ⟨k, hfloor, hk, hwhole, ?_⟩
  by_contra hmore
  have hnext : ((k + 1 : Nat) : ℚ) ≤ amount ms / 60000 := by
    push_cast
    linarith
  have hreached := (hrounds _ (grid_natCast (k + 1) (by omega))).2 hnext
  push_cast at hreached
  exact absurd hgt (not_lt.mpr hreached)

/-- What is left over after the minutes. It has as few places as the latency. -/
theorem amount_rest (k : Nat) (hle : 60000 * (k : ℚ) ≤ amount ms) :
    Amount (ms - Float.ofNat k * 60000.0) ∧
    amount (ms - Float.ofNat k * 60000.0) = amount ms - 60000 * k ∧
    (amount (ms - Float.ofNat k * 60000.0) = 0 ∨
      scaled 1 (-52) ≤ amount (ms - Float.ofNat k * 60000.0)) := by
  rcases amount_minute with ⟨hminute, hvalue⟩
  have hk : 60000 * k < 2 ^ 53 := by exact_mod_cast lt_of_le_of_lt hle hlt
  rcases amount_ofNat_eq k (by omega) with ⟨hnumber, hk'⟩
  have hlarge := natCast_le_largest (2 ^ 53) (le_refl _)
  have hwhole : amount (Float.ofNat k) * amount 60000.0 = (k * 60000 : Nat) := by
    rw [hk', hvalue]
    push_cast
    rfl
  push_cast at hlarge
  rcases exact_mul (Float.ofNat k) 60000.0 hnumber hminute
    (by rw [hwhole]; push_cast; linarith)
    (by rw [hwhole]; exact grid_natCast _ (by omega)) with ⟨hproduct, hminutes⟩
  rw [hwhole] at hminutes
  push_cast at hminutes
  have hrest : amount ms - amount (Float.ofNat k * 60000.0) = amount ms - (60000 * k : Nat) := by
    rw [hminutes]
    push_cast
    ring
  rcases exists_rest ms (by linarith) hlt (60000 * k) (by push_cast; exact hle)
    with ⟨j, d, hj, hjlt, hd⟩
  rcases exact_sub ms (Float.ofNat k * 60000.0) hms hproduct
    (by rw [hminutes]; linarith) (by linarith)
    (by rw [hrest, hj]; exact grid_scaled _ _ (by omega) (by omega)) with ⟨hamount, hdifference⟩
  rw [hrest] at hdifference
  refine ⟨hamount, ?_, ?_⟩
  · push_cast at hdifference
    exact hdifference
  · rw [hdifference, hj]
    rcases Nat.eq_zero_or_pos j with hzero | hsome
    · rw [hzero, scaled_zero]
      exact Or.inl rfl
    · exact Or.inr ((scaled_le_of_exponent_le 1 _ _ (by omega)).trans (scaled_le_of_le 1 j _ hsome))

end Minutes

end Latency

end PageSweep
