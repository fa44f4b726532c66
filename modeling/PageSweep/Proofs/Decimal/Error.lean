import Mathlib.Algebra.Order.Ring.Abs
import PageSweep.Proofs.Decimal.Amount

/-!
# How Much Rounding Changes

A rounded mantissa is off by half a unit at most. Seen from the number, this is one part
in 2^53, unless the number is so small that its mantissa is short.

That a rounding is faithful says less: no double lies between a number and its rounding,
but both neighbours of a number have this property. What decides between them is the
first bit that is lost. A mantissa followed by this bit is the mantissa of twice the
number, and so what is known about lost bits already says where the bit comes from.

## Main definitions

* `Halves`: The first lost bit of a shifted mantissa is what it should be.
* `Close`: A number and its rounding.
* `ClosesTo`: A number rounded to a double that is taken apart.

## Theorems

* `halves_shiftRight`: Shifting keeps track of the first lost bit.
* `abs_roundedMantissa_sub_le`: A rounded mantissa.
* `closesTo_roundWithAccuracy`: Both steps of rounding.
* `close_mul`, `close_div`: The operations.
* `exact_mul`, `exact_sub`: Operations whose result is a double.
-/

namespace PageSweep

namespace Decimal

open Float.Model Float.Model.UnpackedFloat

/-- The mantissa with its round bit, as a mantissa of its own. -/
def withRoundBit (em : ExtendedMantissa) : ExtendedMantissa :=
  ⟨2 * em.mantissa + em.roundBit.toNat, em.stickyBit, false⟩

/-- The round bit of a shifted mantissa is the next bit of a number: with this bit the
mantissa is that of twice the number. -/
def Halves (em : ExtendedMantissa) (y : ℚ) : Prop := Describes (withRoundBit em) (2 * y)

/-- It does not matter which of the two bits says that something was lost. -/
theorem describes_congr (em em' : ExtendedMantissa) (y : ℚ) (hmantissa : em.mantissa = em'.mantissa)
    (hbits : (em.roundBit || em.stickyBit) = (em'.roundBit || em'.stickyBit)) :
    Describes em y ↔ Describes em' y := by
  simp only [Describes, ← Bool.or_eq_false_iff, hbits, hmantissa]

section Halves

variable (em : ExtendedMantissa) (y : ℚ) (hy : Halves em y)
include hy

theorem halves_shiftRightOne : Halves em.shiftRightOne (y / 2) := by
  have hstep := describes_shiftRightOne _ _ hy
  have hdouble : 2 * y / 2 = 2 * (y / 2) := by ring
  rw [hdouble] at hstep
  refine (describes_congr _ _ _ ?_ ?_).mp hstep
  · -- The mantissa has lost its round bit again, and its last bit is the round bit now.
    have hround := em.roundBit.toNat_le
    have hlast : (em.mantissa % 2 != 0).toNat = em.mantissa % 2 := by
      rcases Nat.mod_two_eq_zero_or_one em.mantissa with h | h <;> rw [h] <;> rfl
    simp only [ExtendedMantissa.shiftRightOne, withRoundBit, hlast]
    omega
  · rcases em with ⟨m, round, sticky⟩
    have hodd : ((2 * m + round.toNat) % 2 != 0) = round := by
      cases round with
      | false => simp
      | true => simp
    simp only [ExtendedMantissa.shiftRightOne, withRoundBit, hodd, Bool.or_false]

theorem halves_shiftRight (n : Nat) : Halves (em >>> n) (y / 2 ^ n) := by
  induction n with
  | zero =>
      rw [pow_zero, div_one]
      exact hy
  | succ n ih =>
      rw [pow_succ, ← div_div]
      exact halves_shiftRightOne _ _ ih

/-- A rounded mantissa is off by half a unit at most. -/
theorem abs_roundedMantissa_sub_le : |(em.roundedMantissa : ℚ) - y| ≤ 1 / 2 := by
  rcases em with ⟨m, round, sticky⟩
  unfold Halves Describes withRoundBit at hy
  rw [abs_le]
  cases round with
  | false =>
      have hrounded : (⟨m, false, sticky⟩ : ExtendedMantissa).roundedMantissa = m := by
        cases sticky <;> rfl
      rw [hrounded]
      cases sticky with
      | false =>
          simp only [Bool.toNat_false, and_self, if_true] at hy
          push_cast at hy
          constructor <;> linarith
      | true =>
          simp only [Bool.toNat_false, Bool.true_eq_false, false_and, if_false] at hy
          push_cast at hy
          constructor <;> linarith [hy.1, hy.2]
  | true =>
      cases sticky with
      | false =>
          -- A half is rounded to an even mantissa, up or down.
          simp only [Bool.toNat_true, and_self, if_true] at hy
          push_cast at hy
          have hrounded : (⟨m, true, false⟩ : ExtendedMantissa).roundedMantissa = m + m % 2 := rfl
          have hlast : ((m % 2 : Nat) : ℚ) ≤ 1 := by
            exact_mod_cast Nat.lt_succ_iff.mp (Nat.mod_lt m (by decide))
          have hnonneg : (0 : ℚ) ≤ (m % 2 : Nat) := Nat.cast_nonneg _
          rw [hrounded, Nat.cast_add]
          constructor <;> linarith
      | true =>
          simp only [Bool.toNat_true, Bool.true_eq_false, false_and, if_false] at hy
          push_cast at hy
          have hrounded : (⟨m, true, true⟩ : ExtendedMantissa).roundedMantissa = m + 1 := rfl
          rw [hrounded, Nat.cast_add, Nat.cast_one]
          constructor <;> linarith [hy.1, hy.2]

end Halves

theorem halves_exact (m : Nat) : Halves (ExtendedMantissa.ofMantissaAndAccuracy m .exact) m := by
  have h := describes_exact (2 * m)
  push_cast at h
  exact h

/-- The remainder of a division says on which side of a half it lies. -/
theorem halves_quotient (m n : Nat) (hn : n ≠ 0) :
    Halves (ExtendedMantissa.ofMantissaAndAccuracy (m / n) (accuracyOfFraction (m % n) n))
      ((m : ℚ) / n) := by
  have hpos : (0 : ℚ) < n := Nat.cast_pos.mpr (Nat.pos_of_ne_zero hn)
  have hsplit : 2 * ((m : ℚ) / n) = 2 * (m / n : Nat) + (2 * (m % n) : Nat) / (n : ℚ) := by
    have hwhole : (m : ℚ) = n * (m / n : Nat) + (m % n : Nat) := by
      exact_mod_cast (Nat.div_add_mod m n).symm
    have hquotient : (m : ℚ) / n = (m / n : Nat) + (m % n : Nat) / (n : ℚ) := by
      rw [div_eq_iff hpos.ne', add_mul, div_mul_cancel₀ _ hpos.ne', mul_comm _ (n : ℚ)]
      exact hwhole
    rw [hquotient, mul_add, Nat.cast_mul, Nat.cast_ofNat, mul_div_assoc]
  have hlt : ((2 * (m % n) : Nat) : ℚ) / n < 2 := by
    have hrest : ((2 * (m % n) : Nat) : ℚ) < (2 * n : Nat) :=
      Nat.cast_lt.mpr (Nat.mul_lt_mul_of_pos_left (Nat.mod_lt m (Nat.pos_of_ne_zero hn)) two_pos)
    rw [div_lt_iff₀ hpos]
    push_cast at hrest ⊢
    exact hrest
  unfold accuracyOfFraction
  by_cases hrest : m % n = 0
  · rw [if_pos hrest]
    have hexact := halves_exact (m / n)
    rw [hrest, Nat.mul_zero, Nat.cast_zero, zero_div, add_zero] at hsplit
    rw [mul_left_cancel₀ two_ne_zero hsplit]
    exact hexact
  · rw [if_neg hrest]
    unfold Halves
    rw [hsplit]
    have hsome : (0 : ℚ) < (2 * (m % n) : Nat) / (n : ℚ) :=
      div_pos (Nat.cast_pos.mpr (by omega)) hpos
    -- Twice the remainder is less than the divisor, equal to it, or more.
    cases hcompare : compare (2 * (m % n)) n with
    | lt =>
        have hbelow : ((2 * (m % n) : Nat) : ℚ) / n < 1 := by
          rw [div_lt_one hpos]
          exact Nat.cast_lt.mpr (Nat.compare_eq_lt.mp hcompare)
        refine (if_neg fun h => Bool.noConfusion h.1).mpr ?_
        simp only [withRoundBit, ExtendedMantissa.ofMantissaAndAccuracy, Bool.toNat_false]
        push_cast at hsome hbelow ⊢
        constructor <;> linarith
    | eq =>
        have hhalf : ((2 * (m % n) : Nat) : ℚ) / n = 1 := by
          rw [div_eq_one_iff_eq hpos.ne']
          exact congrArg Nat.cast (Nat.compare_eq_eq.mp hcompare)
        refine (if_pos ⟨rfl, rfl⟩).mpr ?_
        simp only [withRoundBit, ExtendedMantissa.ofMantissaAndAccuracy, Bool.toNat_true]
        rw [hhalf]
        push_cast
        rfl
    | gt =>
        have habove : 1 < ((2 * (m % n) : Nat) : ℚ) / n := by
          rw [one_lt_div hpos]
          exact Nat.cast_lt.mpr (Nat.compare_eq_gt.mp hcompare)
        refine (if_neg fun h => Bool.noConfusion h.1).mpr ?_
        simp only [withRoundBit, ExtendedMantissa.ofMantissaAndAccuracy, Bool.toNat_true]
        push_cast at hlt habove ⊢
        constructor <;> linarith

/-- A number and its rounding differ by one part in 2^53 at most, unless the number is
below the normal ones. -/
def Close (x r : ℚ) : Prop := scaled 1 (-1022) ≤ x → |r - x| ≤ x / 2 ^ 53

/-- A number rounded to a double that is taken apart. -/
def ClosesTo (x : ℚ) (u : UnpackedFloat) : Prop :=
  ∃ m e, Canonical m e ∧ u = ofPair m e ∧ Close x (scaled m e)

theorem closesTo_zero : ClosesTo 0 (.zero .positive) := by
  refine ⟨0, -1074, canonical_zero, (ofPair_zero _).symm, fun _ => ?_⟩
  rw [scaled_zero, sub_self, abs_zero, zero_div]

section Rounding

variable (m n : Nat) (e f : Int)

/-- Half a unit of a mantissa with 53 bits is one part in 2^53 of the number. -/
theorem close_of_abs_le (q r : Nat) (y : ℚ) (t : Int) (hfloor : (q : ℚ) ≤ y ∧ y < q + 1)
    (herror : |(r : ℚ) - y| ≤ 1 / 2) (hlong : 2 ^ 52 ≤ q ∨ t = -1074) :
    Close (y * 2 ^ t) (scaled r t) := by
  intro hnormal
  have hpos := two_zpow_pos t
  have hq : 2 ^ 52 ≤ q := by
    rcases hlong with h | h
    · exact h
    · -- A number with a shorter mantissa and the least exponent is not normal.
      by_contra hshort
      have hbound : (q : ℚ) + 1 ≤ (2 ^ 52 : Nat) := by exact_mod_cast Nat.not_le.mp hshort
      have hbelow : y * 2 ^ t < scaled (2 ^ 52) t :=
        mul_lt_mul_of_pos_right (lt_of_lt_of_le hfloor.2 hbound) hpos
      rw [scaled_two_pow, h] at hbelow
      rw [h] at hnormal
      exact absurd hbelow (not_lt.mpr hnormal)
  have hy : (2 ^ 52 : ℚ) ≤ y := by
    refine le_trans ?_ hfloor.1
    exact_mod_cast hq
  have hdiff : scaled r t - y * 2 ^ t = (r - y) * 2 ^ t := by
    unfold scaled
    ring
  rw [hdiff, abs_mul, abs_of_pos hpos]
  calc |(r : ℚ) - y| * 2 ^ t ≤ 1 / 2 * 2 ^ t := mul_le_mul_of_nonneg_right herror hpos.le
    _ ≤ y / 2 ^ 53 * 2 ^ t := mul_le_mul_of_nonneg_right (by linarith) hpos.le
    _ = y * 2 ^ t / 2 ^ 53 := by ring

theorem closesTo_roundWithAccuracy (accuracy : Accuracy) (y : ℚ)
    (hy : Describes (ExtendedMantissa.ofMantissaAndAccuracy m accuracy) y)
    (hhalves : Halves (ExtendedMantissa.ofMantissaAndAccuracy m accuracy) y)
    (he : e ≤ target m e) :
    ClosesTo (y * 2 ^ e) (roundWithAccuracy Format.binary64 .positive m e accuracy) := by
  rcases exists_rounded m e accuracy he
    with ⟨n, em, m', e', hn, hem, hlong, hcanonical, hvalue, hround⟩
  have hdescribes := describes_shiftRight _ y hy n
  have hshifted := halves_shiftRight _ y hhalves n
  rw [← hem] at hdescribes hshifted
  refine ⟨m', e', hcanonical, hround, ?_⟩
  rw [mul_two_zpow_eq e y n _ hn, hvalue]
  exact close_of_abs_le em.mantissa em.roundedMantissa _ _ (floor_of_describes em _ hdescribes)
    (abs_roundedMantissa_sub_le em _ hshifted) hlong

theorem closesTo_mul (hm : Canonical m e) (hn : Canonical n f) :
    ClosesTo (scaled m e * scaled n f)
      (UnpackedFloat.mul Format.binary64 (ofPair m e) (ofPair n f)) := by
  by_cases hzero : m = 0 ∨ n = 0
  · rcases mul_eq_zero_of m n e f hzero with ⟨hproduct, hvalue⟩
    rw [hproduct, hvalue]
    exact closesTo_zero
  · rcases not_or.mp hzero with ⟨hzero, hzero'⟩
    rcases mul_eq_round m n e f hm hn hzero hzero' with ⟨hproduct, htarget⟩
    rw [hproduct, scaled_mul]
    exact closesTo_roundWithAccuracy (m * n) (e + f) .exact _ (describes_exact _)
      (halves_exact _) htarget

theorem closesTo_div (hne : n ≠ 0) :
    ClosesTo (scaled m e / scaled n f)
      (UnpackedFloat.div Format.binary64 (ofPair m e) (ofPair n f)) := by
  by_cases hzero : m = 0
  · rw [hzero, scaled_zero, zero_div, div_zero_eq n e f hne]
    exact closesTo_zero
  · rcases div_eq_round m n e f hzero hne with ⟨k, t, hquotient, htarget, hvalue⟩
    rw [hquotient, hvalue]
    exact closesTo_roundWithAccuracy _ _ _ _ (describes_quotient _ n hne)
      (halves_quotient _ n hne) htarget

/-- The lesser of two numbers is taken from the greater one, at the lesser exponent. -/
theorem roundsTo_sub (hm : Canonical m e) (hle : scaled n f ≤ scaled m e) :
    RoundsTo (scaled m e - scaled n f)
      (UnpackedFloat.sub Format.binary64 (ofPair m e) (ofPair n f)) := by
  by_cases hzero' : n = 0
  · subst hzero'
    rw [scaled_zero, sub_zero, ofPair_zero]
    by_cases hzero : m = 0
    · subst hzero
      rw [scaled_zero, ofPair_zero]
      exact roundsTo_zero
    · have h := roundsTo_of_canonical m e hm
      rw [ofPair_of_ne m e hzero] at h ⊢
      exact h
  · have hpos : 0 < scaled n f :=
      mul_pos (Nat.cast_pos.mpr (Nat.pos_of_ne_zero hzero')) (two_zpow_pos f)
    have hzero : m ≠ 0 := by
      intro hm
      rw [hm, scaled_zero] at hle
      exact absurd hpos (not_lt.mpr hle)
    rw [ofPair_of_ne m e hzero, ofPair_of_ne n f hzero']
    generalize hleast : min e f = least
    have hfirst := scaled_shiftLeft m e least (by omega)
    have hsecond := scaled_shiftLeft n f least (by omega)
    have hshifted : n <<< (f - least).toNat ≤ m <<< (e - least).toNat := by
      rw [← hfirst, ← hsecond] at hle
      exact (scaled_le_iff _ _ least).mp hle
    have hdifference := roundsTo_normalize (m <<< (e - least).toNat - n <<< (f - least).toNat) least
    have hvalue : scaled (m <<< (e - least).toNat - n <<< (f - least).toNat) least
        = scaled m e - scaled n f := by
      rw [← hfirst, ← hsecond, scaled_sub _ _ _ hshifted]
    rw [hvalue, Nat.cast_sub hshifted, ← hleast] at hdifference
    exact hdifference

end Rounding

section Packing

/-- A double is taken apart in one way, as far as its value goes. -/
theorem scaled_eq_of_ofPair (m m' : Nat) (e e' : Int) (h : ofPair m e = ofPair m' e') :
    scaled m e = scaled m' e' := by
  by_cases hzero : m = 0
  · by_cases hzero' : m' = 0
    · rw [hzero, hzero', scaled_zero, scaled_zero]
    · rw [hzero, ofPair_zero, ofPair_of_ne m' e' hzero'] at h
      exact UnpackedFloat.noConfusion h
  · by_cases hzero' : m' = 0
    · rw [hzero', ofPair_zero, ofPair_of_ne m e hzero] at h
      exact UnpackedFloat.noConfusion h
    · rw [ofPair_of_ne m e hzero, ofPair_of_ne m' e' hzero', UnpackedFloat.finite.injEq] at h
      rw [h.2.1, h.2.2]

theorem close_pack (x : ℚ) (u : UnpackedFloat) (hrounds : RoundsTo x u) (hcloses : ClosesTo x u)
    (hx : x ≤ scaled 1 1023) : Close x (amount (.ofModel (.pack u))) := by
  rcases hrounds with ⟨m, e, hcanonical, rfl, hrounds⟩
  rcases hcloses with ⟨m', e', -, hpair, hclose⟩
  have hle : scaled m e ≤ scaled 1 1023 :=
    (hrounds _ (grid_scaled 1 1023 (by decide) (by decide))).1 hx
  rw [(amount_ofPair m e hcanonical hle).2, scaled_eq_of_ofPair _ _ _ _ hpair]
  exact hclose

variable (x y : Float) (hx : Amount x) (hy : Amount y)
include hx hy

theorem close_mul (h : amount x * amount y ≤ scaled 1 1023) :
    Close (amount x * amount y) (amount (x * y)) := by
  have hm := canonical_bits (magnitudeBits x)
  have hn := canonical_bits (magnitudeBits y)
  have hrounds := roundsTo_mul _ _ _ _ hm hn
  have hcloses := closesTo_mul _ _ _ _ hm hn
  rw [← unpack_of_amount x hx, ← unpack_of_amount y hy] at hrounds hcloses
  exact close_pack _ _ hrounds hcloses h

theorem close_div (hpos : 0 < amount y) (h : amount x / amount y ≤ scaled 1 1023) :
    Close (amount x / amount y) (amount (x / y)) := by
  have hne : mantissaOf (magnitudeBits y) ≠ 0 := by
    intro hzero
    rw [amount, hzero, scaled_zero] at hpos
    exact lt_irrefl _ hpos
  have hrounds := roundsTo_div (mantissaOf (magnitudeBits x)) _ (exponentOf (magnitudeBits x))
    (exponentOf (magnitudeBits y)) hne
  have hcloses := closesTo_div (mantissaOf (magnitudeBits x)) _ (exponentOf (magnitudeBits x))
    (exponentOf (magnitudeBits y)) hne
  rw [← unpack_of_amount x hx, ← unpack_of_amount y hy] at hrounds hcloses
  exact close_pack _ _ hrounds hcloses h

/-- A product that is a double is not rounded. -/
theorem exact_mul (h : amount x * amount y ≤ scaled 1 1023) (hgrid : Grid (amount x * amount y)) :
    Amount (x * y) ∧ amount (x * y) = amount x * amount y := by
  rcases amount_mul x y hx hy h with ⟨hamount, hrounds⟩
  exact ⟨hamount, eq_of_rounds _ _ hgrid hrounds⟩

/-- A difference that is a double is not rounded. -/
theorem exact_sub (hle : amount y ≤ amount x) (h : amount x ≤ scaled 1 1023)
    (hgrid : Grid (amount x - amount y)) :
    Amount (x - y) ∧ amount (x - y) = amount x - amount y := by
  have hrounds := roundsTo_sub _ _ _ _ (canonical_bits (magnitudeBits x)) hle
  rw [← unpack_of_amount x hx, ← unpack_of_amount y hy] at hrounds
  have hbound : amount x - amount y ≤ scaled 1 1023 :=
    (sub_le_self _ (amount_nonneg y)).trans h
  rcases amount_pack _ _ hrounds hbound with ⟨hamount, hrounds⟩
  exact ⟨hamount, eq_of_rounds _ _ hgrid hrounds⟩

end Packing

end Decimal

end PageSweep
