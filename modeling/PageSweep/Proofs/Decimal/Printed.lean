import Mathlib.Algebra.Order.Ring.Abs
import PageSweep.Decimal.Fixed
import PageSweep.Proofs.Decimal.Amount

/-!
# Printed Amounts

A double that is printed with a number of places is off by half a unit of its last place
at most. What is printed is the exact number of the double, so nothing else is lost.

The number of units reaches an even bound exactly if the number comes within half a unit
of it. At a half itself the bound is taken, because it is the even one of the two
neighbours.

## Main definitions

* `unitsOf`: A double in units of a last place.

## Theorems

* `binary_of_isFinite`: The parts of a finite double.
* `le_iff_amount`: Amounts compare as numbers.
* `fixed_eq`: What is printed.
* `abs_unitsOf_sub_le`: How much it is off.
* `unitsOf_lt_iff`, `unitsOf_le`: Bounds of what is printed.
* `exists_floor`: The whole part of an amount.
-/

namespace PageSweep

namespace Decimal

/-- The parts of a finite double. -/
theorem binary_of_isFinite (x : Float) (hx : isFinite x = true) :
    binary x = .finite (signBit x) (mantissaOf (magnitudeBits x))
      (exponentOf (magnitudeBits x)) := by
  have hscale := scale_ne_of_isFinite x hx
  unfold binary
  simp only [if_neg hscale]
  unfold signBit mantissaOf exponentOf magnitudeBits
  by_cases h : x.toBits.toNat / 0x10000000000000 % 0x800 = 0
  · rw [if_pos h, if_pos (by omega), if_pos (by omega)]
    congr 1
    omega
  · rw [if_neg h, if_neg (by omega), if_neg (by omega)]
    congr 1
    · omega
    · omega

section Order

/-- The bits of doubles are in the order of what they stand for. -/
theorem scaled_lt_of_bits (m n : Nat) (h : m < n) :
    scaled (mantissaOf m) (exponentOf m) < scaled (mantissaOf n) (exponentOf n) := by
  have hgreater := mt (isLE_compare n m).mp (Nat.not_le.mpr h)
  rw [Ordering.isLE_then_iff_or, Int.compare_eq_lt, Int.compare_eq_eq, Nat.isLE_compare] at hgreater
  by_cases hsame : exponentOf m = exponentOf n
  · have hmantissa : mantissaOf m < mantissaOf n := by
      rw [hsame] at hgreater
      omega
    rw [← hsame]
    exact (scaled_lt_iff _ _ _).mpr hmantissa
  · -- The greater double has a greater exponent, and so it has a leading bit.
    have hexponent : exponentOf m + 1 ≤ exponentOf n := by omega
    have hleast := (canonical_bits m).least
    have hlong := (canonical_bits n).normal.resolve_right (by omega)
    calc scaled (mantissaOf m) (exponentOf m)
        < scaled (2 ^ 52 * 2 ^ 1) (exponentOf m) := (scaled_lt_iff _ _ _).mpr (canonical_bits m).lt
      _ = scaled (2 ^ 52) (exponentOf m + 1) := scaled_shift _ _ 1
      _ ≤ scaled (2 ^ 52) (exponentOf n) := scaled_le_of_exponent_le _ _ _ hexponent
      _ ≤ scaled (mantissaOf n) (exponentOf n) := scaled_le_of_le _ _ _ hlong

/-- Amounts compare as numbers. -/
theorem le_iff_amount (x y : Float) (hx : Amount x) (hy : Amount y) :
    x ≤ y ↔ amount x ≤ amount y := by
  rw [le_iff_bits x y hx.1 hy.1, hx.2, hy.2]
  dsimp only
  constructor
  · intro h
    rcases Nat.lt_or_eq_of_le h with hlt | heq
    · exact (scaled_lt_of_bits _ _ hlt).le
    · unfold amount
      rw [heq]
  · intro h
    by_contra hlt
    exact absurd (scaled_lt_of_bits _ _ (Nat.not_le.mp hlt)) (not_lt.mpr h)

/-- A constant is compared by the number that it stands for. -/
theorem le_iff_of_amount (c : Float) (n : ℚ) (hc : Amount c ∧ amount c = n) (x : Float)
    (hx : Amount x) : c ≤ x ↔ n ≤ amount x := by
  rw [le_iff_amount c x hc.1 hx, hc.2]

end Order

section Quotients

theorem quotient_eq (m : Nat) (e : Int) :
    0 < (quotient m e).2 ∧ ((quotient m e).1 : ℚ) / (quotient m e).2 = scaled m e := by
  unfold quotient scaled
  by_cases h : 0 ≤ e
  · obtain ⟨k, rfl⟩ := Int.eq_ofNat_of_zero_le h
    rw [if_pos h]
    refine ⟨Nat.one_pos, ?_⟩
    change ((m * 2 ^ k : Nat) : ℚ) / (1 : Nat) = _
    rw [Nat.cast_one, div_one, zpow_natCast]
    push_cast
    rfl
  · obtain ⟨k, hk⟩ := Int.eq_ofNat_of_zero_le (by omega : 0 ≤ -e)
    have he : e = -(k : Int) := by omega
    rw [if_neg h, he, neg_neg]
    refine ⟨Nat.two_pow_pos k, ?_⟩
    change (m : ℚ) / ((2 ^ k : Nat) : ℚ) = _
    rw [zpow_neg, zpow_natCast, div_eq_mul_inv]
    push_cast
    rfl

variable (num den : Nat) (hden : 0 < den)
include hden

omit hden in
/-- A rounded quotient is the whole part or the next number, whichever is nearer. -/
theorem roundDiv_cases :
    (roundDiv num den = num / den ∧ 2 * (num % den) ≤ den) ∨
      (roundDiv num den = num / den + 1 ∧ den ≤ 2 * (num % den)) := by
  have hcases : ∀ n rest : Nat,
      ((if den < 2 * rest ∨ (den = 2 * rest ∧ n % 2 = 1) then n + 1 else n) = n ∧
        2 * rest ≤ den) ∨
      ((if den < 2 * rest ∨ (den = 2 * rest ∧ n % 2 = 1) then n + 1 else n) = n + 1 ∧
        den ≤ 2 * rest) := by
    intro n rest
    by_cases hup : den < 2 * rest ∨ (den = 2 * rest ∧ n % 2 = 1)
    · rw [if_pos hup]
      exact Or.inr ⟨rfl, by omega⟩
    · rw [if_neg hup]
      exact Or.inl ⟨rfl, by omega⟩
  exact hcases (num / den) (num % den)

/-- A rounded quotient is off by a half at most. -/
theorem abs_roundDiv_sub_le : |(roundDiv num den : ℚ) - num / den| ≤ 1 / 2 := by
  have hpos : (0 : ℚ) < den := Nat.cast_pos.mpr hden
  have hsplit := Nat.div_add_mod num den
  have hbounds : 2 * num ≤ 2 * (den * roundDiv num den) + den ∧
      2 * (den * roundDiv num den) ≤ 2 * num + den := by
    rcases roundDiv_cases num den with ⟨hrounded, hrest⟩ | ⟨hrounded, hrest⟩
    · rw [hrounded]
      omega
    · have hlt := Nat.mod_lt num hden
      rw [hrounded, Nat.mul_succ]
      omega
  have hlow : 2 * (num : ℚ) ≤ 2 * (den * roundDiv num den) + den := by exact_mod_cast hbounds.1
  have hhigh : 2 * ((den : ℚ) * roundDiv num den) ≤ 2 * num + den := by exact_mod_cast hbounds.2
  rw [abs_le, neg_le_sub_iff_le_add, sub_le_iff_le_add, div_le_iff₀ hpos]
  constructor
  · linarith
  · rw [← sub_le_iff_le_add', le_div_iff₀ hpos]
    linarith

/-- A quotient below a number is not rounded beyond it. -/
theorem roundDiv_le (k : Nat) (h : num ≤ k * den) : roundDiv num den ≤ k := by
  have hsplit := Nat.div_add_mod num den
  rcases roundDiv_cases num den with ⟨hrounded, -⟩ | ⟨hrounded, hrest⟩
  · rw [hrounded]
    exact (Nat.div_le_iff_le_mul hden).mpr (by omega)
  · -- Something is left over, so the whole part is less than the number.
    rw [hrounded]
    have hlt : num / den < k := by
      by_contra hge
      have hle := Nat.mul_le_mul_left den (Nat.not_lt.mp hge)
      rw [Nat.mul_comm den k] at hle
      omega
    exact hlt

/-- A quotient is rounded to an even number from a half below it on. -/
theorem roundDiv_lt_iff (k : Nat) (heven : k % 2 = 0) :
    roundDiv num den < k ↔ 2 * num + den < 2 * (den * k) := by
  have hsplit := Nat.div_add_mod num den
  have hlt := Nat.mod_lt num hden
  rcases Nat.lt_trichotomy (num / den + 1) k with hbelow | hnext | habove
  · have hfar : den * (num / den + 2) ≤ den * k := Nat.mul_le_mul_left den hbelow
    rw [Nat.mul_add] at hfar
    refine iff_of_true ?_ (by omega)
    rcases roundDiv_cases num den with ⟨hrounded, -⟩ | ⟨hrounded, -⟩
    · omega
    · omega
  · -- The whole part is odd, so a half is rounded up.
    have hup : roundDiv num den < num / den + 1 ↔ 2 * (num % den) < den := by
      unfold roundDiv
      dsimp only
      by_cases h : den < 2 * (num % den) ∨ (den = 2 * (num % den) ∧ num / den % 2 = 1)
      · rw [if_pos h]
        omega
      · rw [if_neg h]
        omega
    rw [← hnext, hup, Nat.mul_succ]
    omega
  · have hnear : den * k ≤ den * (num / den) := Nat.mul_le_mul_left den (by omega)
    refine iff_of_false ?_ (by omega)
    rcases roundDiv_cases num den with ⟨hrounded, -⟩ | ⟨hrounded, -⟩
    · omega
    · omega

end Quotients

/-- The magnitude of a double in units of a last place. -/
def unitsOf (places : Nat) (x : Float) : Nat :=
  let (num, den) := quotient (mantissaOf (magnitudeBits x)) (exponentOf (magnitudeBits x))
  roundDiv (num * Nat.pow 10 places) den

section Printing

variable (places : Nat) (x : Float)

/-- What is printed. -/
theorem fixed_eq (hx : isFinite x = true) :
    fixed places x = (if signBit x then "-" else "") ++ pointed places (unitsOf places x) := by
  unfold fixed
  rw [binary_of_isFinite x hx]
  rfl

/-- The number of units is a rounded quotient. -/
theorem exists_unitsOf :
    ∃ num den : Nat, 0 < den ∧ unitsOf places x = roundDiv num den ∧
      (num : ℚ) / den = amount x * 10 ^ places := by
  rcases quotient_eq (mantissaOf (magnitudeBits x)) (exponentOf (magnitudeBits x))
    with ⟨hden, hvalue⟩
  unfold unitsOf amount
  generalize quotient (mantissaOf (magnitudeBits x)) (exponentOf (magnitudeBits x)) = q at *
  have hpow : ((Nat.pow 10 places : Nat) : ℚ) = 10 ^ places := by
    exact_mod_cast rfl
  refine ⟨q.1 * Nat.pow 10 places, q.2, hden, rfl, ?_⟩
  rw [Nat.cast_mul, hpow, mul_div_right_comm, hvalue]

/-- What is printed is off by half a unit of the last place at most. -/
theorem abs_unitsOf_sub_le :
    |(unitsOf places x : ℚ) / 10 ^ places - amount x| ≤ 1 / 10 ^ places / 2 := by
  rcases exists_unitsOf places x with ⟨num, den, hden, hunits, hvalue⟩
  have herror := abs_roundDiv_sub_le num den hden
  have hpow : (0 : ℚ) < 10 ^ places := pow_pos (by norm_num) places
  rw [← hunits, hvalue] at herror
  have hscale : (unitsOf places x : ℚ) / 10 ^ places - amount x
      = (unitsOf places x - amount x * 10 ^ places) / 10 ^ places := by
    rw [sub_div, mul_div_cancel_right₀ _ hpow.ne']
  rw [hscale, abs_div, abs_of_pos hpow, div_right_comm]
  exact div_le_div_of_nonneg_right herror hpow.le

/-- A bound of the number is one of what is printed. -/
theorem unitsOf_le (k : Nat) (h : amount x * 10 ^ places ≤ k) : unitsOf places x ≤ k := by
  rcases exists_unitsOf places x with ⟨num, den, hden, hunits, hvalue⟩
  rw [hunits]
  refine roundDiv_le num den hden k ?_
  rw [← hvalue, div_le_iff₀ (Nat.cast_pos.mpr hden)] at h
  exact_mod_cast h

/-- An even bound is reached from half a unit below it on. -/
theorem unitsOf_lt_iff (k : Nat) (heven : k % 2 = 0) :
    unitsOf places x < k ↔ amount x * 10 ^ places + 1 / 2 < k := by
  rcases exists_unitsOf places x with ⟨num, den, hden, hunits, hvalue⟩
  have hpos : (0 : ℚ) < den := Nat.cast_pos.mpr hden
  have hcast : 2 * num + den < 2 * (den * k) ↔ 2 * (num : ℚ) + den < 2 * (den * k) := by
    exact_mod_cast Iff.rfl
  have hquotient : (num : ℚ) / den + 1 / 2 < k ↔ (num : ℚ) < (k - 1 / 2) * den := by
    rw [← lt_sub_iff_add_lt, div_lt_iff₀ hpos]
  rw [hunits, roundDiv_lt_iff num den hden k heven, hcast, ← hvalue, hquotient]
  constructor
  · intro h
    linarith
  · intro h
    linarith

/-- The whole part of an amount, as a double. -/
theorem exists_floor (hx : Amount x) :
    ∃ k : Nat, floor x = Float.ofNat k ∧ (k : ℚ) ≤ amount x ∧ amount x < k + 1 := by
  rcases quotient_eq (mantissaOf (magnitudeBits x)) (exponentOf (magnitudeBits x))
    with ⟨hden, hvalue⟩
  refine ⟨wholePart (mantissaOf (magnitudeBits x)) (exponentOf (magnitudeBits x)), ?_, ?_⟩
  · unfold floor
    rw [binary_of_isFinite x hx.1, hx.2]
  · unfold wholePart amount
    generalize quotient (mantissaOf (magnitudeBits x)) (exponentOf (magnitudeBits x)) = q at *
    have hpos : (0 : ℚ) < q.2 := Nat.cast_pos.mpr hden
    have hlow : (((q.1 / q.2 * q.2 : Nat)) : ℚ) ≤ q.1 := Nat.cast_le.mpr (Nat.div_mul_le_self _ _)
    have hhigh : (q.1 : ℚ) < ((q.1 / q.2 + 1) * q.2 : Nat) := Nat.cast_lt.mpr (by
      rw [Nat.mul_comm]
      exact Nat.lt_mul_div_succ _ hden)
    push_cast at hlow hhigh
    rw [← hvalue, le_div_iff₀ hpos, div_lt_iff₀ hpos]
    exact ⟨hlow, hhigh⟩

end Printing

end Decimal

end PageSweep
