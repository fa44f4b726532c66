import Mathlib.Algebra.Order.Field.Power
import Mathlib.Algebra.Order.Field.Rat
import Mathlib.Tactic.Linarith
import Mathlib.Tactic.Positivity
import Mathlib.Tactic.Ring
import PageSweep.Proofs.Decimal.Comparison

/-!
# Rounding

What an operation on doubles computes is its exact result, rounded. The exact results
here are never negative, and all that matters about rounding is that it is faithful: no
double lies between a number and what it is rounded to. So a bound that is a double
itself is a bound of the rounded number if it is one of the exact one.

Rounding goes in two steps. The mantissa is shifted until it has 53 bits or the exponent
is the least one there is, where two bits remember what was lost. Then it is rounded to
one of its two neighbours, and if it has become too long by that, it is shifted by one
more place, which loses nothing.

## Main definitions

* `scaled`: A mantissa and an exponent as a number.
* `Grid`: The numbers that are doubles, without a bound on their size.
* `Rounds`: No double lies between two numbers.
* `Canonical`: The form in which doubles are kept.
* `ofPair`: A mantissa and an exponent as a positive double, or as zero.
* `Describes`: What the two bits of a shifted mantissa remember.
* `RoundsTo`: A number rounded to a double that is taken apart.

## Theorems

* `describes_shiftRight`: Shifting keeps track of what is lost.
* `rounds_of_floor`: A neighbour of a number in a fine enough grid.
* `exists_rounded`: What rounding computes.
* `roundsTo_roundWithAccuracy`: Both steps of rounding.
* `roundsTo_add`, `roundsTo_mul`, `roundsTo_div`, `roundsTo_ofNat`: The operations.
-/

namespace PageSweep

namespace Decimal

open Float.Model Float.Model.UnpackedFloat

/-- A mantissa and an exponent as a number. -/
def scaled (m : Nat) (e : Int) : ℚ := m * 2 ^ e

/-- The numbers that are doubles, if doubles could be of any size. -/
def Grid (x : ℚ) : Prop := ∃ k p, k ≤ 2 ^ 53 ∧ -1074 ≤ p ∧ x = scaled k p

/-- No double lies between two numbers. -/
def Rounds (x r : ℚ) : Prop :=
  ∀ bound, Grid bound → (x ≤ bound → r ≤ bound) ∧ (bound ≤ x → bound ≤ r)

/-- The form in which a double is kept: with a mantissa of 53 bits, or a shorter one
and the least exponent. -/
structure Canonical (m : Nat) (e : Int) : Prop where
  lt : m < 2 ^ 53
  least : -1074 ≤ e
  normal : 2 ^ 52 ≤ m ∨ e = -1074

/-- A mantissa and an exponent as a positive double, or as zero. -/
def ofPair (m : Nat) (e : Int) : UnpackedFloat :=
  if h : m = 0 then .zero .positive else .finite .positive m e (Nat.pos_of_ne_zero h)

section Numbers

variable (m n : Nat) (e f : Int)

theorem two_zpow_pos : (0 : ℚ) < 2 ^ e := zpow_pos (by decide) e

theorem scaled_nonneg : 0 ≤ scaled m e :=
  mul_nonneg (Nat.cast_nonneg m) (two_zpow_pos e).le

theorem scaled_zero : scaled 0 e = 0 := by
  unfold scaled
  rw [Nat.cast_zero, zero_mul]

theorem scaled_natCast : scaled m 0 = m := by
  unfold scaled
  rw [zpow_zero, mul_one]

theorem scaled_shift (k : Nat) : scaled (m * 2 ^ k) e = scaled m (e + k) := by
  unfold scaled
  rw [Nat.cast_mul, Nat.cast_pow, Nat.cast_ofNat, zpow_add₀ (by decide), zpow_natCast]
  ring

/-- A number brought to a lesser exponent. -/
theorem scaled_shiftLeft (least : Int) (h : least ≤ e) :
    scaled (m <<< (e - least).toNat) least = scaled m e := by
  rw [Nat.shiftLeft_eq, scaled_shift]
  congr 1
  omega

theorem scaled_two_pow (k : Nat) : scaled (2 ^ k) e = scaled 1 (e + k) := by
  rw [← scaled_shift, one_mul]

/-- A whole number with any number of zero bits behind the point. -/
theorem scaled_cancel (k : Nat) : scaled (m * 2 ^ k) (-k) = m := by
  rw [scaled_shift, neg_add_cancel, scaled_natCast]

theorem scaled_add : scaled m e + scaled n e = scaled (m + n) e := by
  unfold scaled
  rw [Nat.cast_add, add_mul]

theorem scaled_sub (h : n ≤ m) : scaled m e - scaled n e = scaled (m - n) e := by
  unfold scaled
  rw [Nat.cast_sub h, sub_mul]

theorem scaled_mul : scaled m e * scaled n f = scaled (m * n) (e + f) := by
  unfold scaled
  rw [Nat.cast_mul, zpow_add₀ (by decide)]
  ring

theorem scaled_le_of_le (h : m ≤ n) : scaled m e ≤ scaled n e :=
  mul_le_mul_of_nonneg_right (Nat.cast_le.mpr h) (two_zpow_pos e).le

theorem scaled_le_iff : scaled m e ≤ scaled n e ↔ m ≤ n := by
  unfold scaled
  rw [mul_le_mul_iff_of_pos_right (two_zpow_pos e), Nat.cast_le]

theorem scaled_lt_iff : scaled m e < scaled n e ↔ m < n := by
  rw [← not_le, scaled_le_iff, Nat.not_le]

theorem scaled_le_of_exponent_le (h : e ≤ f) : scaled m e ≤ scaled m f :=
  mul_le_mul_of_nonneg_left (zpow_le_zpow_right₀ (by decide) h) (Nat.cast_nonneg m)

theorem grid_scaled (hm : m ≤ 2 ^ 53) (he : -1074 ≤ e) : Grid (scaled m e) :=
  ⟨m, e, hm, he, rfl⟩

theorem scaled_le_one (he : e ≤ 0) : scaled 1 e ≤ 1 := by
  have h := scaled_le_of_exponent_le 1 e 0 he
  rw [scaled_natCast, Nat.cast_one] at h
  exact h

/-- A whole number of up to 53 bits is a double. -/
theorem grid_natCast (hn : n ≤ 2 ^ 53) : Grid n := by
  rw [← scaled_natCast]
  exact grid_scaled n 0 hn (by decide)

theorem rounds_refl (x : ℚ) : Rounds x x := fun _ _ => ⟨id, id⟩

/-- A double is rounded to itself. -/
theorem eq_of_rounds (x r : ℚ) (hgrid : Grid x) (h : Rounds x r) : r = x :=
  le_antisymm ((h x hgrid).1 (le_refl x)) ((h x hgrid).2 (le_refl x))

end Numbers

section Shifting

/-- What the two bits of a shifted mantissa remember of a number: whether it is the
mantissa, or lies between the mantissa and the next one. -/
def Describes (em : ExtendedMantissa) (y : ℚ) : Prop :=
  if em.roundBit = false ∧ em.stickyBit = false then y = em.mantissa
  else em.mantissa < y ∧ y < em.mantissa + 1

variable (em : ExtendedMantissa) (y : ℚ) (hy : Describes em y)
include hy

theorem floor_of_describes : (em.mantissa : ℚ) ≤ y ∧ y < em.mantissa + 1 := by
  unfold Describes at hy
  by_cases h : em.roundBit = false ∧ em.stickyBit = false
  · rw [if_pos h] at hy
    rw [hy]
    exact ⟨le_refl _, lt_add_one _⟩
  · rw [if_neg h] at hy
    exact ⟨hy.1.le, hy.2⟩

theorem describes_shiftRightOne : Describes em.shiftRightOne (y / 2) := by
  rcases em with ⟨m, round, sticky⟩
  -- A mantissa is twice its half, or one more than that.
  have hhalf : (m : ℚ) = 2 * (m / 2 : Nat) + (m % 2 : Nat) := by
    exact_mod_cast (Nat.div_add_mod m 2).symm
  have hlt : ((m % 2 : Nat) : ℚ) ≤ 1 := by
    exact_mod_cast Nat.lt_succ_iff.mp (Nat.mod_lt m (by decide))
  have hnonneg : (0 : ℚ) ≤ (m % 2 : Nat) := Nat.cast_nonneg _
  unfold Describes at hy ⊢
  simp only [ExtendedMantissa.shiftRightOne, Bool.or_eq_false_iff] at hy ⊢
  by_cases hexact : round = false ∧ sticky = false
  · rw [if_pos hexact] at hy
    by_cases heven : m % 2 = 0
    · rw [if_pos ⟨by rw [heven]; rfl, hexact⟩, hy]
      rw [heven, Nat.cast_zero, add_zero] at hhalf
      linarith
    · have hone : m % 2 = 1 := Nat.mod_two_ne_zero.mp heven
      rw [if_neg fun h => heven (bne_eq_false_iff_eq.mp h.1), hy]
      rw [hone, Nat.cast_one] at hhalf
      constructor
      · linarith
      · linarith
  · rw [if_neg hexact] at hy
    rw [if_neg fun h => hexact h.2]
    constructor
    · linarith [hy.1]
    · -- The next mantissa is at most twice the next half.
      linarith [hy.2]

theorem describes_shiftRight (n : Nat) : Describes (em >>> n) (y / 2 ^ n) := by
  induction n with
  | zero =>
      rw [pow_zero, div_one]
      exact hy
  | succ n ih =>
      rw [pow_succ, ← div_div]
      exact describes_shiftRightOne _ _ ih

omit hy in
/-- Rounding picks a neighbour. -/
theorem roundedMantissa_bounds :
    em.mantissa ≤ em.roundedMantissa ∧ em.roundedMantissa ≤ em.mantissa + 1 := by
  rcases em with ⟨m, round, sticky⟩
  cases round with
  | false => cases sticky <;> exact ⟨le_refl _, Nat.le_succ _⟩
  | true =>
      cases sticky with
      | false =>
          refine ⟨Nat.le_add_right m (m % 2), ?_⟩
          exact Nat.add_le_add_left (Nat.lt_succ_iff.mp (Nat.mod_lt m (by decide))) m
      | true => exact ⟨Nat.le_succ m, le_refl _⟩

/-- A number that is a mantissa is rounded to itself. -/
theorem roundedMantissa_of_describes (h : y = em.mantissa) :
    em.roundedMantissa = em.mantissa := by
  rcases em with ⟨m, round, sticky⟩
  unfold Describes at hy
  cases round with
  | false => cases sticky <;> rfl
  | true =>
      rw [if_neg fun h => Bool.noConfusion h.1] at hy
      exact absurd h hy.1.ne'

omit hy in
theorem mantissa_shiftRight (n : Nat) : (em >>> n).mantissa = em.mantissa / 2 ^ n := by
  induction n with
  | zero => exact (Nat.div_one _).symm
  | succ n ih =>
      have hstep : (em >>> (n + 1)).mantissa = (em >>> n).mantissa / 2 := rfl
      rw [hstep, ih, Nat.div_div_eq_div_mul, pow_succ]

end Shifting

section Neighbours

variable (q r : Nat) (y : ℚ) (hfloor : (q : ℚ) ≤ y ∧ y < q + 1)
variable (hqr : q ≤ r) (hrq : r ≤ q + 1) (hexact : y = q → r = q)
include hfloor hqr hrq hexact

/-- No whole number lies between a number and one of its two neighbours. -/
theorem no_whole_between (c : Nat) : (y ≤ c → r ≤ c) ∧ ((c : ℚ) ≤ y → c ≤ r) := by
  constructor
  · intro hle
    by_cases hy : y = q
    · rw [hexact hy]
      rw [hy] at hle
      exact Nat.cast_le.mp hle
    · have hlt : (q : ℚ) < c := lt_of_lt_of_le (lt_of_le_of_ne' hfloor.1 hy) hle
      have hlt' : q < c := Nat.cast_lt.mp hlt
      omega
  · intro hle
    have hlt : (c : ℚ) < (q + 1 : Nat) := by
      rw [Nat.cast_succ]
      exact lt_of_le_of_lt hle hfloor.2
    have hlt' : c < q + 1 := Nat.cast_lt.mp hlt
    omega

/-- A neighbour of a number among the multiples of a power of two is a faithful
rounding, if these are the finest ones that a double can have for it. -/
theorem rounds_of_floor (t : Int) (hfine : 2 ^ 52 ≤ q ∨ t = -1074) :
    Rounds (y * 2 ^ t) (scaled r t) := by
  rintro bound ⟨k, p, hk, hp, rfl⟩
  have hpos := two_zpow_pos t
  by_cases hpt : t ≤ p
  · -- The bound is such a multiple itself.
    obtain ⟨d, rfl⟩ := Int.le.dest hpt
    rw [← scaled_shift]
    unfold scaled
    rw [mul_le_mul_iff_of_pos_right hpos, mul_le_mul_iff_of_pos_right hpos,
      mul_le_mul_iff_of_pos_right hpos, mul_le_mul_iff_of_pos_right hpos, Nat.cast_le, Nat.cast_le]
    exact no_whole_between q r y hfloor hqr hrq hexact (k * 2 ^ d)
  · -- The bound is one of finer ones, and so not above the number.
    have hq : 2 ^ 52 ≤ q := hfine.resolve_right (by omega)
    have hbound : scaled k p ≤ scaled (2 ^ 52) t := by
      refine (scaled_le_of_le k (2 ^ 52 * 2 ^ 1) p (by omega)).trans ?_
      rw [scaled_shift]
      exact scaled_le_of_exponent_le _ _ _ (by push_cast; omega)
    have hbelow : scaled k p ≤ scaled q t := hbound.trans (scaled_le_of_le _ _ _ hq)
    constructor
    · intro hle
      have hy : y = q := by
        refine le_antisymm ?_ hfloor.1
        exact (mul_le_mul_iff_of_pos_right hpos).mp (hle.trans hbelow)
      rw [hexact hy]
      rw [hy] at hle
      exact hle
    · intro _
      exact hbelow.trans (scaled_le_of_le _ _ _ hqr)

end Neighbours

/-- A number rounded to a double that is taken apart. -/
def RoundsTo (x : ℚ) (u : UnpackedFloat) : Prop :=
  ∃ m e, Canonical m e ∧ u = ofPair m e ∧ Rounds x (scaled m e)

/-- The exponent to which a mantissa is shifted. -/
def target (m : Nat) (e : Int) : Int := max ((m.log2 : Int) + 1 + e - 53) (-1074)

theorem targetExponent_totalExponent (m : Nat) (e : Int) :
    Format.binary64.targetExponent (totalExponent m e) = target m e := rfl

section Rounding

variable (m : Nat) (e : Int)

theorem log2_le_of_lt (h : m < 2 ^ 53) : m.log2 ≤ 52 := by
  by_cases hzero : m = 0
  · rw [hzero]
    decide
  · have hlt := (Nat.log2_lt hzero).mpr h
    omega

theorem le_log2_of_le (h : 2 ^ 52 ≤ m) : 52 ≤ m.log2 :=
  (Nat.le_log2 (by omega)).mpr h

theorem log2_mul_two_pow (hm : m ≠ 0) (k : Nat) : (m * 2 ^ k).log2 = m.log2 + k := by
  induction k with
  | zero => rw [pow_zero, mul_one, add_zero]
  | succ k ih =>
      have hne : m * 2 ^ k ≠ 0 := Nat.mul_ne_zero hm (Nat.two_pow_pos k).ne'
      rw [pow_succ, ← mul_assoc, mul_comm (m * 2 ^ k), Nat.log2_two_mul hne, ih, add_assoc]

/-- A mantissa that fits stays as it is. -/
theorem shiftToTargetExponent_of_lt (hm : m < 2 ^ 53) (he : -1074 ≤ e) :
    shiftToTargetExponent Format.binary64 m e .exact = (⟨m, false, false⟩, e) := by
  have hlog := log2_le_of_lt m hm
  have hamount : (target m e - e).toNat = 0 := by
    unfold target
    omega
  rw [shiftToTargetExponent, targetExponent_totalExponent, shiftToExponent, hamount]
  exact congrArg _ (add_zero e)

/-- A mantissa that has become one bit too long is shifted by one place. -/
theorem shiftToTargetExponent_carry (he : -1074 ≤ e) :
    shiftToTargetExponent Format.binary64 (2 ^ 53) e .exact
      = (⟨2 ^ 52, false, false⟩, e + 1) := by
  have hamount : (target (2 ^ 53) e - e).toNat = 1 := by
    unfold target
    rw [Nat.log2_two_pow]
    omega
  rw [shiftToTargetExponent, targetExponent_totalExponent, shiftToExponent, hamount]
  rfl

theorem shifted_lt (n : Nat) (h : m.log2 ≤ 52 + n) : m / 2 ^ n < 2 ^ 53 := by
  rw [Nat.div_lt_iff_lt_mul (Nat.two_pow_pos n), ← pow_add]
  exact lt_of_lt_of_le Nat.lt_log2_self (Nat.pow_le_pow_right (by decide) (by omega))

theorem le_shifted (n : Nat) (h : 52 + n ≤ m.log2) : 2 ^ 52 ≤ m / 2 ^ n := by
  have hm : m ≠ 0 := by
    intro hzero
    rw [hzero, Nat.log2_zero] at h
    omega
  rw [Nat.le_div_iff_mul_le (Nat.two_pow_pos n), ← pow_add]
  exact (Nat.pow_le_pow_right (by decide) h).trans (Nat.log2_self_le hm)

/-- The second step of rounding brings a mantissa into its form and loses nothing. -/
theorem exists_canonical (r : Nat) (t : Int) (hr : r ≤ 2 ^ 53) (ht : -1074 ≤ t)
    (hnormal : 2 ^ 52 ≤ r ∨ t = -1074) :
    ∃ m e, Canonical m e ∧ scaled m e = scaled r t ∧
      shiftToTargetExponent Format.binary64 r t .exact = (⟨m, false, false⟩, e) := by
  by_cases hlt : r < 2 ^ 53
  · exact ⟨r, t, ⟨hlt, ht, hnormal⟩, rfl, shiftToTargetExponent_of_lt r t hlt ht⟩
  · have heq : r = 2 ^ 52 * 2 ^ 1 := by omega
    refine ⟨2 ^ 52, t + 1, ⟨by decide, by omega, Or.inl (le_refl _)⟩, ?_, ?_⟩
    · rw [heq, scaled_shift, Nat.cast_one]
    · rw [heq]
      exact shiftToTargetExponent_carry t ht

/-- Rounding in two steps. -/
theorem roundWithAccuracy_eq (accuracy : Accuracy) (em : ExtendedMantissa) (t : Int) (m' : Nat)
    (e' : Int) (hfirst : shiftToTargetExponent Format.binary64 m e accuracy = (em, t))
    (hsecond : shiftToTargetExponent Format.binary64 em.roundedMantissa t .exact
      = (⟨m', false, false⟩, e')) :
    roundWithAccuracy Format.binary64 .positive m e accuracy = ofPair m' e' := by
  have hsteps : roundWithAccuracy Format.binary64 .positive m e accuracy
      = let first := shiftToTargetExponent Format.binary64 m e accuracy
        let last := shiftToTargetExponent Format.binary64 first.1.roundedMantissa first.2 .exact
        ofPair last.1.mantissa last.2 := rfl
  rw [hsteps, hfirst]
  exact congrArg (fun last => ofPair last.1.mantissa last.2) hsecond

theorem mantissa_ofMantissaAndAccuracy (accuracy : Accuracy) :
    (ExtendedMantissa.ofMantissaAndAccuracy m accuracy).mantissa = m := by
  cases accuracy with
  | exact => rfl
  | inexact order => cases order <;> rfl

/-- What rounding computes, if the exponent is not too great: the mantissa is shifted to
its target, rounded there, and brought into its form. It has 53 bits at the target,
unless that is the least exponent. -/
theorem exists_rounded (accuracy : Accuracy) (he : e ≤ target m e) :
    ∃ (n : Nat) (em : ExtendedMantissa) (m' : Nat) (e' : Int), e + n = target m e ∧
      em = ExtendedMantissa.ofMantissaAndAccuracy m accuracy >>> n ∧
      (2 ^ 52 ≤ em.mantissa ∨ target m e = -1074) ∧ Canonical m' e' ∧
      scaled m' e' = scaled em.roundedMantissa (target m e) ∧
      roundWithAccuracy Format.binary64 .positive m e accuracy = ofPair m' e' := by
  obtain ⟨n, hn⟩ := Int.le.dest he
  have hamount : (target m e - e).toNat = n := by omega
  generalize hem : ExtendedMantissa.ofMantissaAndAccuracy m accuracy >>> n = em
  have hq := mantissa_shiftRight (ExtendedMantissa.ofMantissaAndAccuracy m accuracy) n
  rw [hem, mantissa_ofMantissaAndAccuracy] at hq
  rcases roundedMantissa_bounds em with ⟨hqr, hrq⟩
  have hshort : m.log2 ≤ 52 + n := by
    unfold target at hn
    omega
  have hlong : 2 ^ 52 ≤ em.mantissa ∨ target m e = -1074 := by
    by_cases hleast : target m e = -1074
    · exact Or.inr hleast
    · refine Or.inl ?_
      rw [hq]
      refine le_shifted m n ?_
      unfold target at hn hleast
      omega
  have hlt : em.mantissa < 2 ^ 53 := by
    rw [hq]
    exact shifted_lt m n hshort
  rcases exists_canonical em.roundedMantissa (target m e) (by omega) (le_max_right _ _)
    (hlong.imp_left fun h => h.trans hqr) with ⟨m', e', hcanonical, hvalue, hshift⟩
  have hfirst : shiftToTargetExponent Format.binary64 m e accuracy = (em, target m e) := by
    rw [shiftToTargetExponent, targetExponent_totalExponent, shiftToExponent, hamount, hem, hn]
  exact ⟨n, em, m', e', hn, hem.symm, hlong, hcanonical, hvalue,
    roundWithAccuracy_eq m e accuracy em _ m' e' hfirst hshift⟩

/-- A number of which a shifted mantissa is a part, seen from the target. -/
theorem mul_two_zpow_eq (y : ℚ) (n : Nat) (t : Int) (hn : e + n = t) :
    y * 2 ^ e = y / 2 ^ n * 2 ^ t := by
  rw [← hn, zpow_add₀ (by decide), zpow_natCast, mul_comm ((2 : ℚ) ^ e), ← mul_assoc,
    div_mul_cancel₀ _ (pow_ne_zero n (by decide))]

/-- Rounding a mantissa of which it is known what was lost, if its exponent is not too
great. -/
theorem roundsTo_roundWithAccuracy (accuracy : Accuracy) (y : ℚ)
    (hy : Describes (ExtendedMantissa.ofMantissaAndAccuracy m accuracy) y)
    (he : e ≤ target m e) :
    RoundsTo (y * 2 ^ e) (roundWithAccuracy Format.binary64 .positive m e accuracy) := by
  rcases exists_rounded m e accuracy he
    with ⟨n, em, m', e', hn, hem, hlong, hcanonical, hvalue, hround⟩
  have hdescribes := describes_shiftRight _ y hy n
  rw [← hem] at hdescribes
  rcases roundedMantissa_bounds em with ⟨hqr, hrq⟩
  refine ⟨m', e', hcanonical, hround, ?_⟩
  rw [mul_two_zpow_eq e y n _ hn, hvalue]
  exact rounds_of_floor em.mantissa em.roundedMantissa _ (floor_of_describes em _ hdescribes) hqr
    hrq (roundedMantissa_of_describes em _ hdescribes) (target m e) hlong

end Rounding

section Operations

variable (m n : Nat) (e f : Int)

theorem describes_exact :
    Describes (ExtendedMantissa.ofMantissaAndAccuracy m .exact) m :=
  (if_pos ⟨rfl, rfl⟩).mpr rfl

theorem roundsTo_of_canonical (h : Canonical m e) : RoundsTo (scaled m e) (ofPair m e) :=
  ⟨m, e, h, rfl, rounds_refl _⟩

theorem canonical_zero : Canonical 0 (-1074) := ⟨by decide, le_refl _, Or.inr rfl⟩

theorem ofPair_zero : ofPair 0 e = .zero .positive := dif_pos rfl

theorem ofPair_of_ne (h : m ≠ 0) :
    ofPair m e = .finite .positive m e (Nat.pos_of_ne_zero h) := dif_neg h

theorem roundsTo_zero : RoundsTo 0 (.zero .positive) := by
  have h := roundsTo_of_canonical 0 (-1074) canonical_zero
  rw [scaled_zero, ofPair_zero] at h
  exact h

/-- Any positive number of the form of a double can be rounded, when its mantissa is
made long enough first. -/
theorem roundsTo_round (hm : m ≠ 0) :
    RoundsTo (scaled m e) (UnpackedFloat.round Format.binary64 .positive m e) := by
  generalize hk : (e - target m e).toNat = k
  -- The zero bits behind a mantissa change neither the number nor its target.
  have hround : UnpackedFloat.round Format.binary64 .positive m e
      = roundWithAccuracy Format.binary64 .positive (m * 2 ^ k) (e - k) .exact := by
    rw [UnpackedFloat.round, targetExponent_totalExponent, decreaseExponent, hk]
    simp only [Nat.shiftLeft_eq]
  have htarget : target (m * 2 ^ k) (e - k) = target m e := by
    unfold target
    rw [log2_mul_two_pow m hm]
    push_cast
    congr 1
    ring
  have hvalue : scaled m e = (m * 2 ^ k : Nat) * 2 ^ (e - k) := by
    have h := scaled_shift m (e - k) k
    rw [sub_add_cancel] at h
    exact h.symm
  rw [hround, hvalue]
  exact roundsTo_roundWithAccuracy _ _ _ _ (describes_exact _) (by omega)

theorem roundsTo_normalize :
    RoundsTo (scaled m e) (UnpackedFloat.normalize Format.binary64 m e .positive) := by
  by_cases hm : m = 0
  · rw [hm, scaled_zero]
    exact roundsTo_zero
  · have hgt : compare (m : Int) 0 = .gt := by
      rw [Int.compare_eq_gt]
      omega
    rw [UnpackedFloat.normalize, hgt]
    exact roundsTo_round m e hm

/-- Both summands are brought to the lesser exponent and then added. -/
theorem roundsTo_add (hm : Canonical m e) (hn : Canonical n f) :
    RoundsTo (scaled m e + scaled n f)
      (UnpackedFloat.add Format.binary64 (ofPair m e) (ofPair n f)) := by
  -- Nothing is rounded if one of them is zero.
  by_cases hzero : m = 0
  · subst hzero
    rw [scaled_zero, zero_add, ofPair_zero]
    by_cases hzero' : n = 0
    · subst hzero'
      rw [scaled_zero, ofPair_zero]
      exact roundsTo_zero
    · have h := roundsTo_of_canonical n f hn
      rw [ofPair_of_ne n f hzero'] at h ⊢
      exact h
  · by_cases hzero' : n = 0
    · subst hzero'
      have h := roundsTo_of_canonical m e hm
      rw [scaled_zero, add_zero, ofPair_zero]
      rw [ofPair_of_ne m e hzero] at h ⊢
      exact h
    · rw [ofPair_of_ne m e hzero, ofPair_of_ne n f hzero']
      generalize hleast : min e f = least
      have hfirst := scaled_shiftLeft m e least (by omega)
      have hsecond := scaled_shiftLeft n f least (by omega)
      have hsum := roundsTo_normalize (m <<< (e - least).toNat + n <<< (f - least).toNat) least
      have hvalue : scaled (m <<< (e - least).toNat + n <<< (f - least).toNat) least
          = scaled m e + scaled n f := by
        rw [← hfirst, ← hsecond, scaled_add]
      rw [hvalue] at hsum
      rw [← hleast] at hsum
      exact hsum

/-- A product of two mantissas is long enough, or its exponent is small. -/
theorem mul_eq_round (hm : Canonical m e) (hn : Canonical n f) (hzero : m ≠ 0) (hzero' : n ≠ 0) :
    UnpackedFloat.mul Format.binary64 (ofPair m e) (ofPair n f)
      = roundWithAccuracy Format.binary64 .positive (m * n) (e + f) .exact ∧
    e + f ≤ target (m * n) (e + f) := by
  rw [ofPair_of_ne m e hzero, ofPair_of_ne n f hzero']
  refine ⟨rfl, ?_⟩
  -- If both mantissas are short, both exponents are the least one.
  have hlong : 52 ≤ (m * n).log2 ∨ e + f ≤ -1074 := by
    rcases hm.normal with h | h
    · have hle := Nat.le_mul_of_pos_right m (Nat.pos_of_ne_zero hzero')
      exact Or.inl (le_log2_of_le _ (h.trans hle))
    · rcases hn.normal with h' | h'
      · have hle := Nat.le_mul_of_pos_left n (Nat.pos_of_ne_zero hzero)
        exact Or.inl (le_log2_of_le _ (h'.trans hle))
      · exact Or.inr (by omega)
  unfold target
  omega

/-- The product with a zero is zero. -/
theorem mul_eq_zero_of (h : m = 0 ∨ n = 0) :
    UnpackedFloat.mul Format.binary64 (ofPair m e) (ofPair n f) = .zero .positive ∧
    scaled m e * scaled n f = 0 := by
  rcases h with rfl | rfl
  · rw [scaled_zero, zero_mul, ofPair_zero]
    refine ⟨?_, rfl⟩
    by_cases hzero' : n = 0
    · rw [hzero', ofPair_zero]
      rfl
    · rw [ofPair_of_ne n f hzero']
      rfl
  · rw [scaled_zero, mul_zero, ofPair_zero]
    refine ⟨?_, rfl⟩
    by_cases hzero : m = 0
    · rw [hzero, ofPair_zero]
      rfl
    · rw [ofPair_of_ne m e hzero]
      rfl

theorem roundsTo_mul (hm : Canonical m e) (hn : Canonical n f) :
    RoundsTo (scaled m e * scaled n f)
      (UnpackedFloat.mul Format.binary64 (ofPair m e) (ofPair n f)) := by
  by_cases hzero : m = 0 ∨ n = 0
  · rcases mul_eq_zero_of m n e f hzero with ⟨hproduct, hvalue⟩
    rw [hproduct, hvalue]
    exact roundsTo_zero
  · rcases not_or.mp hzero with ⟨hzero, hzero'⟩
    rcases mul_eq_round m n e f hm hn hzero hzero' with ⟨hproduct, htarget⟩
    rw [hproduct, scaled_mul]
    exact roundsTo_roundWithAccuracy (m * n) (e + f) .exact _ (describes_exact _) htarget

/-- The remainder of a division says where between two mantissas the quotient lies. -/
theorem describes_quotient (hn : n ≠ 0) :
    Describes (ExtendedMantissa.ofMantissaAndAccuracy (m / n) (accuracyOfFraction (m % n) n))
      ((m : ℚ) / n) := by
  have hpos : (0 : ℚ) < n := Nat.cast_pos.mpr (Nat.pos_of_ne_zero hn)
  have hsplit : (m : ℚ) = n * (m / n : Nat) + (m % n : Nat) := by
    exact_mod_cast (Nat.div_add_mod m n).symm
  unfold accuracyOfFraction
  by_cases hrest : m % n = 0
  · rw [if_pos hrest]
    have hwhole : (m : ℚ) / n = (m / n : Nat) := by
      rw [hrest, Nat.cast_zero, add_zero] at hsplit
      rw [div_eq_iff hpos.ne', mul_comm]
      exact hsplit
    rw [hwhole]
    exact describes_exact _
  · rw [if_neg hrest]
    have hbetween : ((m / n : Nat) : ℚ) < m / n ∧ (m : ℚ) / n < (m / n : Nat) + 1 := by
      have hlow : (0 : ℚ) < (m % n : Nat) := Nat.cast_pos.mpr (Nat.pos_of_ne_zero hrest)
      have hhigh : ((m % n : Nat) : ℚ) < n := Nat.cast_lt.mpr (Nat.mod_lt m (Nat.pos_of_ne_zero hn))
      rw [lt_div_iff₀ hpos, div_lt_iff₀ hpos]
      constructor
      · linarith
      · linarith
    cases compare (2 * (m % n)) n with
    | lt => exact (if_neg fun h => Bool.noConfusion h.2).mpr hbetween
    | eq => exact (if_neg fun h => Bool.noConfusion h.1).mpr hbetween
    | gt => exact (if_neg fun h => Bool.noConfusion h.1).mpr hbetween

/-- The quotient is made long enough before it is rounded. -/
theorem div_eq_round (hzero : m ≠ 0) (hne : n ≠ 0) :
    ∃ (k : Nat) (t : Int), UnpackedFloat.div Format.binary64 (ofPair m e) (ofPair n f)
        = roundWithAccuracy Format.binary64 .positive (m * 2 ^ k / n) t
          (accuracyOfFraction (m * 2 ^ k % n) n) ∧
      t ≤ target (m * 2 ^ k / n) t ∧
      scaled m e / scaled n f = ((m * 2 ^ k : Nat) : ℚ) / n * 2 ^ t := by
  rw [ofPair_of_ne n f hne, ofPair_of_ne m e hzero]
  generalize ht : min (e - f) (max ((m.log2 + 1 + e) - (n.log2 + 1 + f) - 53) (-1074)) = t
  generalize hk : (e - f - t).toNat = k
  refine ⟨k, t, ?_, ?_, ?_⟩
  · have hcore : divCore Format.binary64 m e n f
        = (m * 2 ^ k / n, t, accuracyOfFraction (m * 2 ^ k % n) n) := by
      rw [← Nat.shiftLeft_eq, ← hk, ← ht]
      rfl
    have hdiv : UnpackedFloat.div Format.binary64 (.finite .positive m e (Nat.pos_of_ne_zero hzero))
          (.finite .positive n f (Nat.pos_of_ne_zero hne))
        = roundWithAccuracy Format.binary64 .positive (divCore Format.binary64 m e n f).1
          (divCore Format.binary64 m e n f).2.1 (divCore Format.binary64 m e n f).2.2 := rfl
    rw [hdiv, hcore]
  · -- The numerator has 53 bits more than the denominator, or the exponent is the least one.
    have hlong : t ≤ -1074 ∨ 53 + n.log2 ≤ m.log2 + k := by omega
    rcases hlong with hleast | hlong
    · unfold target
      omega
    · have hbits : 2 ^ 52 ≤ m * 2 ^ k / n := by
        rw [Nat.le_div_iff_mul_le (Nat.pos_of_ne_zero hne)]
        have hden : n < 2 ^ (n.log2 + 1) := Nat.lt_log2_self
        calc 2 ^ 52 * n ≤ 2 ^ 52 * 2 ^ (n.log2 + 1) := Nat.mul_le_mul_left _ hden.le
          _ = 2 ^ (53 + n.log2) := by rw [← pow_add]; congr 1; omega
          _ ≤ 2 ^ (m.log2 + k) := Nat.pow_le_pow_right (by decide) hlong
          _ = 2 ^ m.log2 * 2 ^ k := pow_add _ _ _
          _ ≤ m * 2 ^ k := Nat.mul_le_mul_right _ (Nat.log2_self_le hzero)
      have hlog := le_log2_of_le _ hbits
      unfold target
      omega
  · have hshift : scaled (m * 2 ^ k) (t + f) = scaled m e := by
      rw [scaled_shift]
      congr 1
      omega
    rw [← hshift]
    unfold scaled
    rw [zpow_add₀ (by decide), div_mul_eq_mul_div, ← mul_assoc,
      mul_div_mul_right _ _ (two_zpow_pos f).ne']

/-- A zero divided is zero. -/
theorem div_zero_eq (hne : n ≠ 0) :
    UnpackedFloat.div Format.binary64 (ofPair 0 e) (ofPair n f) = .zero .positive := by
  rw [ofPair_of_ne n f hne, ofPair_zero]
  rfl

theorem roundsTo_div (hne : n ≠ 0) :
    RoundsTo (scaled m e / scaled n f)
      (UnpackedFloat.div Format.binary64 (ofPair m e) (ofPair n f)) := by
  by_cases hzero : m = 0
  · rw [hzero, scaled_zero, zero_div, div_zero_eq n e f hne]
    exact roundsTo_zero
  · rcases div_eq_round m n e f hzero hne with ⟨k, t, hquotient, htarget, hvalue⟩
    rw [hquotient, hvalue]
    exact roundsTo_roundWithAccuracy _ _ _ _ (describes_quotient _ n hne) htarget

theorem roundsTo_ofNat : RoundsTo n (UnpackedFloat.ofNat Format.binary64 n) := by
  have h := roundsTo_normalize n 0
  rw [scaled_natCast] at h
  exact h

/-- A number of any size, read as a decimal one without a fraction. -/
theorem roundsTo_ofScientific : RoundsTo n (UnpackedFloat.ofScientific Format.binary64 n 0) := by
  by_cases hn : n = 0
  · rw [hn, Nat.cast_zero]
    exact roundsTo_zero
  · have hvalue : (n : ℚ) = (n * 2 ^ 53 * 1 : Nat) * 2 ^ (-53 + 0 : Int) := by
      rw [mul_one, add_zero]
      exact (scaled_cancel n 53).symm
    have hlong : (-53 + 0 : Int) ≤ target (n * 2 ^ 53 * 1) (-53 + 0) := by
      rw [mul_one]
      unfold target
      rw [log2_mul_two_pow n hn]
      omega
    have hmul : UnpackedFloat.ofScientific Format.binary64 n 0
        = roundWithAccuracy Format.binary64 .positive (n * 2 ^ 53 * 1) (-53 + 0) .exact := by
      have hlarge : ¬ ((0 : Int) < -((2 ^ 11 : Int) + n.log2)) := by omega
      rw [UnpackedFloat.ofScientific, dif_neg hn, if_neg (by decide), if_neg hlarge,
        if_pos (le_refl _), ← Nat.shiftLeft_eq]
      rfl
    rw [hmul, hvalue]
    exact roundsTo_roundWithAccuracy _ _ .exact _ (describes_exact _) hlong

end Operations

end Decimal

end PageSweep
