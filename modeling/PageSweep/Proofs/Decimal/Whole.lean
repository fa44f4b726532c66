import PageSweep.Proofs.Decimal.Printed
import PageSweep.Stats.Text

/-!
# Whole Numbers Written in Full

The shortest decimal that reads back to a double need not be the number that the double
stands for. For a whole number below 2^53 it is. The interval around such a double is
less than half a unit wide to either side, so on a grid of whole numbers there is nothing
in it but the number itself. The search begins at the grid of the leading digit and comes
to the units at the latest, where the number lies on the grid.

## Main definitions

* `Interval.IsWhole`: The interval around a whole number.

## Theorems

* `contains_iff`: Which whole numbers lie in the interval.
* `onGrid_eq`: What is found on a grid of whole numbers.
* `exists_search`: The search finds the number.
* `shortest_whole`: The shortest decimal of a whole number.
* `wholeText_ofNat`: What is written.
-/

namespace PageSweep

namespace Decimal

/-- The interval around a whole number: the number is far from the next one, and the
interval ends not more than two units of its denominator away. -/
structure Interval.IsWhole (i : Interval) (k : Nat) : Prop where
  exact : i.exact = k * i.den
  wide : 4 ≤ i.den
  low_lt : i.low < i.exact
  low_near : i.exact ≤ i.low + 2
  high : i.high = i.exact + 2

section Whole

variable (i : Interval) (k : Nat) (hi : i.IsWhole k)
include hi

/-- There is one whole number in the interval. -/
theorem contains_iff (n : Nat) : i.contains n 1 = true ↔ n = k := by
  have hexact := hi.exact
  have hwide := hi.wide
  have hlow := hi.low_lt
  have hnear := hi.low_near
  have hhigh := hi.high
  have hbetween : i.low ≤ n * i.den ∧ n * i.den ≤ i.high → n = k := by
    rintro ⟨hle, hge⟩
    rcases Nat.lt_trichotomy n k with hlt | heq | hgt
    · have hfar := Nat.mul_le_mul_right i.den hlt
      rw [Nat.succ_mul] at hfar
      omega
    · exact heq
    · have hfar := Nat.mul_le_mul_right i.den hgt
      rw [Nat.succ_mul] at hfar
      omega
  unfold Interval.contains
  rw [Nat.mul_one, Nat.mul_one]
  by_cases hclosed : i.closed = true
  · rw [if_pos hclosed, Bool.and_eq_true, decide_eq_true_eq, decide_eq_true_eq]
    refine ⟨hbetween, ?_⟩
    rintro rfl
    omega
  · rw [if_neg hclosed, Bool.and_eq_true, decide_eq_true_eq, decide_eq_true_eq]
    refine ⟨fun h => hbetween ⟨h.1.le, h.2.le⟩, ?_⟩
    rintro rfl
    omega

/-- On a grid of whole numbers nothing but the number itself is found. -/
theorem onGrid_eq (p : Nat) :
    i.onGrid p = if k / 10 ^ p * 10 ^ p = k then some ⟨k / 10 ^ p, p⟩ else none := by
  have hpos : 0 < i.den := Nat.lt_of_lt_of_le (by decide) hi.wide
  have hquotient : i.exact * 1 / (i.den * 10 ^ p) = k / 10 ^ p := by
    rw [hi.exact, Nat.mul_one, Nat.mul_comm k, Nat.mul_div_mul_left _ _ hpos]
  -- The next point of the grid is beyond the number.
  have hnext : ¬ (k / 10 ^ p + 1) * 10 ^ p = k := by
    have hlt := Nat.lt_mul_div_succ k (Nat.pow_pos (n := p) (by decide : 0 < 10))
    rw [Nat.mul_comm] at hlt
    omega
  have hup : Nat.pow 10 (-(p : Int)).toNat = 1 := by
    rw [Int.toNat_eq_zero.mpr (by omega)]
  have hdown : Nat.pow 10 (p : Int).toNat = 10 ^ p := rfl
  have hsecond : i.contains ((k / 10 ^ p + 1) * 10 ^ p) 1 = false :=
    Bool.eq_false_iff.mpr (mt (contains_iff i k hi _).mp hnext)
  unfold Interval.onGrid
  simp only [hup, hdown, hquotient, hsecond]
  by_cases h : k / 10 ^ p * 10 ^ p = k
  · have hfirst : i.contains (k / 10 ^ p * 10 ^ p) 1 = true := (contains_iff i k hi _).mpr h
    rw [if_pos h, hfirst]
  · have hfirst : i.contains (k / 10 ^ p * 10 ^ p) 1 = false :=
      Bool.eq_false_iff.mpr (mt (contains_iff i k hi _).mp h)
    rw [if_neg h, hfirst]

/-- The search comes to the units, where the number is found, if it has not found it
before. The induction is on the number of grids that are left. -/
theorem exists_search (tries p : Nat) (h : p < tries) :
    ∃ d, i.search tries p = some d ∧ 0 ≤ d.exponent ∧
      d.coefficient * 10 ^ d.exponent.toNat = k := by
  induction tries generalizing p with
  | zero => exact absurd h (Nat.not_lt_zero p)
  | succ tries ih =>
      rw [Interval.search, onGrid_eq i k hi]
      by_cases hgrid : k / 10 ^ p * 10 ^ p = k
      · rw [if_pos hgrid]
        exact ⟨_, rfl, Int.natCast_nonneg p, hgrid⟩
      · rw [if_neg hgrid, Option.none_or]
        cases p with
        | zero => exact absurd (by rw [Nat.pow_zero, Nat.div_one, Nat.mul_one]) hgrid
        | succ p =>
            have hplace : ((p + 1 : Nat) : Int) - 1 = p := by omega
            rw [hplace]
            exact ih p (Nat.lt_of_succ_lt_succ h)

end Whole

/-- A number is not longer than its bound. -/
theorem digitCount_bounds (w n : Nat) (h : n < 10 ^ (w + 1)) :
    0 < digitCount n ∧ digitCount n ≤ w + 1 := by
  induction w generalizing n with
  | zero =>
      rw [digitCount, if_pos (by omega)]
      exact ⟨Nat.one_pos, le_refl _⟩
  | succ w ih =>
      rw [digitCount]
      by_cases hdigit : n < 10
      · rw [if_pos hdigit]
        exact ⟨Nat.one_pos, by omega⟩
      · rw [if_neg hdigit]
        rw [Nat.pow_succ] at h
        rcases ih (n / 10) (by omega) with ⟨-, hle⟩
        exact ⟨Nat.succ_pos _, by omega⟩

/-- Final zeros are kept as part of the exponent. -/
theorem trim_whole (d : Digits) (h : 0 ≤ d.exponent) :
    d.trim.coefficient * 10 ^ d.trim.exponent.toNat
      = d.coefficient * 10 ^ d.exponent.toNat := by
  induction d using Digits.trim.induct with
  | case1 d hzero ih =>
      have hshift : (d.exponent + 1).toNat = d.exponent.toNat + 1 := by omega
      have hlast : d.coefficient / 10 * 10 = d.coefficient := by omega
      rw [Digits.trim, dif_pos hzero, ih (by dsimp only; omega)]
      dsimp only
      rw [hshift, Nat.pow_succ', ← Nat.mul_assoc, hlast]
  | case2 d hzero => rw [Digits.trim, dif_neg hzero]

section Shortest

variable (m : Nat) (e : Int) (k : Nat) (hm : Canonical m e) (hpos : 0 < k) (hlt : k < 2 ^ 53)
variable (hvalue : scaled m e = k)
include hm hlt hvalue

/-- The mantissa of a whole number below 2^53 is the number, with zero bits behind it. -/
theorem exists_shifted : ∃ d : Nat, e = -d ∧ m = k * 2 ^ d := by
  have he : e ≤ 0 := by
    refine exponent_nonpos m e hm ?_
    rw [hvalue]
    exact_mod_cast hlt
  obtain ⟨d, hd⟩ := Int.eq_ofNat_of_zero_le (by omega : 0 ≤ -e)
  have hexponent : e = -(d : Int) := by omega
  refine ⟨d, hexponent, ?_⟩
  have hscaled : scaled m e = scaled (k * 2 ^ d) e := by
    rw [hvalue, hexponent, scaled_cancel]
  exact Nat.cast_inj.mp (mul_right_cancel₀ (two_zpow_pos e).ne' hscaled)

include hpos

theorem isWhole_around : (Interval.around m e).IsWhole k := by
  rcases exists_shifted m e k hm hlt hvalue with ⟨d, rfl, rfl⟩
  have hquotient : quotient 1 (-(d : Int) - 2) = (1, 2 ^ (d + 2)) := by
    have hexponent : (-(-(d : Int) - 2)).toNat = d + 2 := by omega
    unfold quotient
    rw [if_neg (by omega), hexponent]
    rfl
  have hden : 2 ^ (d + 2) = 4 * 2 ^ d := by
    rw [Nat.pow_add, Nat.mul_comm]
  have hbits : 0 < k * 2 ^ d := Nat.mul_pos hpos (Nat.two_pow_pos d)
  unfold Interval.around
  rw [hquotient]
  dsimp only
  generalize hbelow : (if k * 2 ^ d = 0x10000000000000 ∧ -1074 < -(d : Int) then 1 else 2) = below
  have hbounds : 0 < below ∧ below ≤ 2 := by
    split at hbelow <;> omega
  refine ⟨?_, ?_, ?_, ?_, ?_⟩
  · dsimp only
    rw [hden, Nat.mul_one, Nat.mul_left_comm]
  · dsimp only
    have hone := Nat.two_pow_pos d
    omega
  · dsimp only
    omega
  · dsimp only
    omega
  · dsimp only
    omega

/-- The shortest decimal of a whole number is the number. -/
theorem shortest_whole :
    (shortest m e).coefficient * 10 ^ (shortest m e).exponent.toNat = k := by
  have hi := isWhole_around m e k hm hpos hlt hvalue
  have hne : m ≠ 0 := by
    intro hzero
    rw [hzero, scaled_zero] at hvalue
    exact absurd (Nat.cast_eq_zero.mp hvalue.symm) hpos.ne'
  have hden : 0 < (Interval.around m e).den := Nat.lt_of_lt_of_le (by decide) hi.wide
  rcases digitCount_bounds 15 k (by omega) with ⟨hsome, hcount⟩
  have hleading : leadingExponent (Interval.around m e).exact (Interval.around m e).den
      = ((digitCount k - 1 : Nat) : Int) := by
    unfold leadingExponent
    rw [hi.exact, if_pos (Nat.le_mul_of_pos_left _ hpos), Nat.mul_div_cancel _ hden]
    omega
  rcases exists_search _ k hi 17 (digitCount k - 1) (by omega) with ⟨d, hsearch, hexponent, hd⟩
  unfold shortest
  rw [if_neg hne]
  dsimp only
  rw [hleading, hsearch, Option.getD_some, trim_whole d hexponent, hd]

end Shortest

/-- A whole number is written in full. -/
theorem wholeText_ofNat (k : Nat) (hlt : k < 2 ^ 53) :
    Latency.wholeText (Float.ofNat k) = toString k := by
  rcases amount_ofNat_eq k hlt.le with ⟨hamount, hvalue⟩
  unfold Latency.wholeText
  rw [binary_of_isFinite _ hamount.1, hamount.2]
  dsimp only
  have hcanonical := canonical_bits (magnitudeBits (Float.ofNat k))
  unfold amount at hvalue
  generalize mantissaOf (magnitudeBits (Float.ofNat k)) = m at *
  generalize exponentOf (magnitudeBits (Float.ofNat k)) = e at *
  have hnumber : (shortest m e).coefficient * 10 ^ (shortest m e).exponent.toNat = k := by
    by_cases hzero : k = 0
    · have hm : m = 0 := by
        rw [hzero, Nat.cast_zero] at hvalue
        have hproduct := (mul_eq_zero.mp hvalue).resolve_right (two_zpow_pos e).ne'
        exact Nat.cast_eq_zero.mp hproduct
      rw [hm, hzero]
      rfl
    · exact shortest_whole m e k hcanonical (Nat.pos_of_ne_zero hzero) hlt hvalue
  rw [if_neg Bool.false_ne_true, String.empty_append]
  exact congrArg toString hnumber

end Decimal

end PageSweep
