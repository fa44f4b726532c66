import PageSweep.Proofs.Decimal.Whole
import PageSweep.Proofs.Stats.Order
import PageSweep.Proofs.Stats.Reading
import PageSweep.Proofs.Stats.Scaling

/-!
# Printed Latencies Are Accurate

A printed latency differs from the latency by half a unit of its last digit at most, and
by what was lost when the latency was brought to its unit.

The unit is chosen first and the number is rounded afterwards, so a number that is just
below what makes up the next unit may be printed as that: a latency just short of a minute
is sixty seconds, and one just short of two minutes is a minute and sixty seconds. This is
the only way in which a printed latency can leave its normal form, and it happens exactly
from half a hundredth below the next unit on.

## Main definitions

* `printed`: The double that is printed with two places.
* `Prints`: What is printed for a latency.

## Theorems

* `exists_prints`: What is printed, unit by unit.
* `normal_iff`: When the number before the unit is less than what makes up the next one.
* `abs_value_sub_le`: How accurate it is.
* `text_accurate`: All of this for every latency below 2^53 milliseconds.
-/

namespace PageSweep

namespace Latency

open Decimal

/-- The double that is printed with two places. -/
def printed (ms : Float) : Float :=
  if 60000.0 ≤ ms then (ms - floor (ms / 60000.0) * 60000.0) / 1000.0
  else if 1000.0 ≤ ms then ms / 1000.0
  else if 1.0 ≤ ms || ms == 0.0 then ms
  else ms * 1000.0

/-- The sign that is printed: zero may have one. -/
def sign (ms : Float) : String := if signBit ms then "-" else ""

/-- What is printed for a latency. The minutes are exact, and the rest is brought to its
unit and printed with two places. -/
structure Prints (ms : Float) (r : Reading) : Prop where
  text : text ms = sign ms ++ r.text
  hundredths : r.hundredths = unitsOf 2 (printed ms)
  bound : amount (printed ms) * 100 ≤ r.scale.limit
  minutes : 60000 * (r.minutes : ℚ) ≤ amount ms ∧ amount ms < 60000 * (r.minutes + 1)
  near : |amount (printed ms) * r.scale.size - (amount ms - 60000 * r.minutes)|
    ≤ (amount ms - 60000 * r.minutes) / 2 ^ 53

section Readings

variable (ms : Float) (r : Reading) (h : Prints ms r)
include h

/-- What is printed reaches the next unit, but does not go beyond it. -/
theorem hundredths_le : r.hundredths ≤ r.scale.limit := by
  rw [h.hundredths]
  exact unitsOf_le 2 (printed ms) _ ((by norm_num : (10 : ℚ) ^ 2 = 100) ▸ h.bound)

theorem normal_iff : r.Normal ↔ amount (printed ms) * 100 + 1 / 2 < r.scale.limit := by
  have heven : r.scale.limit % 2 = 0 := by
    cases r.scale <;> rfl
  have hiff := unitsOf_lt_iff 2 (printed ms) r.scale.limit heven
  rw [(by norm_num : (10 : ℚ) ^ 2 = 100)] at hiff
  unfold Reading.Normal
  rw [h.hundredths]
  exact hiff

/-- The number is normal already if the latency is far enough from the next unit. -/
theorem normal_of_lt (hfar : (amount ms - 60000 * r.minutes) * (1 + 1 / 2 ^ 53)
    < (r.scale.limit - 1 / 2) * r.lastPlace) : r.Normal := by
  have hnear := (abs_le.mp h.near).2
  have hsize := r.scale.size_pos
  rw [normal_iff ms r h]
  unfold Reading.lastPlace at hfar
  have hscaled : amount (printed ms) * 100 * r.scale.size
      < (r.scale.limit - 1 / 2) * r.scale.size := by
    linarith
  linarith [lt_of_mul_lt_mul_right hscaled hsize.le]

/-- Half a hundredth is lost by printing, and the rest by rounding. -/
theorem abs_value_sub_le :
    |r.value - amount ms| ≤ r.lastPlace / 2 + (amount ms - 60000 * r.minutes) / 2 ^ 53 := by
  have hsize := r.scale.size_pos
  have hplaces := abs_unitsOf_sub_le 2 (printed ms)
  rw [← h.hundredths] at hplaces
  have hsplit : r.value - amount ms
      = (r.hundredths / 10 ^ 2 - amount (printed ms)) * r.scale.size
        + (amount (printed ms) * r.scale.size - (amount ms - 60000 * r.minutes)) := by
    unfold Reading.value
    ring
  calc |r.value - amount ms|
      ≤ |(r.hundredths / 10 ^ 2 - amount (printed ms)) * r.scale.size|
        + |amount (printed ms) * r.scale.size - (amount ms - 60000 * r.minutes)| := by
        rw [hsplit]
        exact abs_add_le _ _
    _ ≤ 1 / 10 ^ 2 / 2 * r.scale.size + (amount ms - 60000 * r.minutes) / 2 ^ 53 := by
        refine add_le_add ?_ h.near
        rw [abs_mul, abs_of_pos hsize]
        exact mul_le_mul_of_nonneg_right hplaces hsize.le
    _ = r.lastPlace / 2 + (amount ms - 60000 * r.minutes) / 2 ^ 53 := by
        unfold Reading.lastPlace
        ring

end Readings

section Units

variable (ms : Float)

theorem sign_of_amount (hms : Amount ms) : sign ms = "" := by
  unfold sign
  rw [hms.2]
  rfl

/-- From one minute on. -/
theorem prints_long (hms : Amount ms) (hlt : amount ms < 2 ^ 53) (hlong : 60000.0 ≤ ms) :
    ∃ r, Prints ms r := by
  have hlow := (le_iff_of_amount _ _ amount_minute ms hms).mp hlong
  rcases exists_minutes ms hms hlow hlt with ⟨k, hfloor, hk, hle, hgt⟩
  rcases amount_rest ms hms hlow hlt k hle with ⟨hrest, hvalue, hplaces⟩
  have hpos : 1 ≤ k := by
    have hsome : (0 : ℚ) < k := by linarith
    exact Nat.cast_pos.mp hsome
  have hprinted : printed ms = (ms - Float.ofNat k * 60000.0) / 1000.0 := by
    unfold printed
    rw [if_pos hlong, hfloor]
  rcases div_thousand _ hrest hplaces (by rw [hvalue]; linarith) with ⟨hamount, hbound, hnear⟩
  rw [hvalue, ← hprinted] at hnear
  rw [← hprinted] at hamount hbound
  refine ⟨.long k hpos (unitsOf 2 (printed ms)), ?_, rfl, ?_, ⟨hle, hgt⟩, hnear⟩
  · unfold text
    rw [if_pos hlong]
    dsimp only
    rw [hfloor, wholeText_ofNat k (by omega), ← hprinted, fixed_eq 2 _ hamount.1, hamount.2,
      if_neg Bool.false_ne_true, String.empty_append, sign_of_amount ms hms, String.empty_append]
    rfl
  · change amount (printed ms) * 100 ≤ ((6000 : Nat) : ℚ)
    push_cast
    linarith

/-- What has to be known of a unit, below one minute. -/
theorem prints_plain (s : Scale) (htext : text ms = fixed 2 (printed ms) ++ s.name)
    (hfinite : isFinite (printed ms) = true) (hsign : signBit (printed ms) = signBit ms)
    (hbound : amount (printed ms) * 100 ≤ s.limit) (hlt : amount ms < 60000)
    (hnear : |amount (printed ms) * s.size - amount ms| ≤ amount ms / 2 ^ 53) :
    Prints ms (.plain s (unitsOf 2 (printed ms))) := by
  have hnonneg := amount_nonneg ms
  have hrest : amount ms - 60000 * ((0 : Nat) : ℚ) = amount ms := by
    rw [Nat.cast_zero, mul_zero, sub_zero]
  refine ⟨?_, rfl, hbound, ⟨?_, ?_⟩, ?_⟩
  · rw [htext, fixed_eq 2 _ hfinite, hsign, String.append_assoc]
    rfl
  · rw [← sub_nonneg]
    exact hnonneg.trans hrest.ge
  · change amount ms < 60000 * (((0 : Nat) : ℚ) + 1)
    rw [Nat.cast_zero, zero_add, mul_one]
    exact hlt
  · change |amount (printed ms) * s.size - (amount ms - 60000 * ((0 : Nat) : ℚ))|
      ≤ (amount ms - 60000 * ((0 : Nat) : ℚ)) / 2 ^ 53
    rw [hrest]
    exact hnear

/-- From one second on. -/
theorem prints_secs (hms : Amount ms) (hshort : ¬ 60000.0 ≤ ms) (hsecs : 1000.0 ≤ ms) :
    ∃ r, Prints ms r := by
  have hlow := (le_iff_of_amount _ _ amount_thousand ms hms).mp hsecs
  have hhigh := not_le.mp (mt (le_iff_of_amount _ _ amount_minute ms hms).mpr hshort)
  have hplaces : scaled 1 (-52) ≤ amount ms :=
    (scaled_le_one (-52) (by decide)).trans (by linarith)
  have hprinted : printed ms = ms / 1000.0 := by
    unfold printed
    rw [if_neg hshort, if_pos hsecs]
  rcases div_thousand ms hms (Or.inr hplaces) hhigh.le with ⟨hamount, hbound, hnear⟩
  rw [← hprinted] at hamount hbound hnear
  refine ⟨_, prints_plain ms .secs ?_ hamount.1 (hamount.2.trans hms.2.symm) ?_ hhigh hnear⟩
  · unfold text
    rw [if_neg hshort, if_pos hsecs, hprinted]
    rfl
  · change amount (printed ms) * 100 ≤ ((6000 : Nat) : ℚ)
    push_cast
    linarith

/-- From one millisecond on, and for both zeros, nothing is lost. -/
theorem prints_millis (hfinite : isFinite ms = true) (hshort : ¬ 60000.0 ≤ ms)
    (hsecs : ¬ 1000.0 ≤ ms) (hmillis : (1.0 ≤ ms || ms == 0.0) = true) (hlt : amount ms < 1000) :
    ∃ r, Prints ms r := by
  have hprinted : printed ms = ms := by
    unfold printed
    rw [if_neg hshort, if_neg hsecs, if_pos hmillis]
  refine ⟨_, prints_plain ms .millis ?_ ?_ ?_ ?_ (by linarith) ?_⟩
  · unfold text
    rw [if_neg hshort, if_neg hsecs, if_pos hmillis, hprinted]
    rfl
  · rw [hprinted]
    exact hfinite
  · rw [hprinted]
  · change amount (printed ms) * 100 ≤ ((100000 : Nat) : ℚ)
    rw [hprinted]
    push_cast
    linarith
  · change |amount (printed ms) * 1 - amount ms| ≤ amount ms / 2 ^ 53
    rw [hprinted, mul_one, sub_self, abs_zero]
    exact div_nonneg (amount_nonneg ms) (by norm_num)

/-- Below one millisecond. -/
theorem prints_micros (hms : Amount ms) (hshort : ¬ 60000.0 ≤ ms) (hsecs : ¬ 1000.0 ≤ ms)
    (hmillis : ¬ (1.0 ≤ ms || ms == 0.0) = true) (hlt : amount ms < 1) : ∃ r, Prints ms r := by
  have hprinted : printed ms = ms * 1000.0 := by
    unfold printed
    rw [if_neg hshort, if_neg hsecs, if_neg hmillis]
  rcases mul_thousand ms hms hlt with ⟨hamount, hbound, hnear⟩
  rw [← hprinted] at hamount hbound hnear
  refine ⟨_, prints_plain ms .micros ?_ hamount.1 (hamount.2.trans hms.2.symm) ?_ (by linarith) ?_⟩
  · unfold text
    rw [if_neg hshort, if_neg hsecs, if_neg hmillis, hprinted]
    rfl
  · change amount (printed ms) * 100 ≤ ((100000 : Nat) : ℚ)
    push_cast
    linarith
  · change |amount (printed ms) * (1 / 1000) - amount ms| ≤ amount ms / 2 ^ 53
    have hbounds := abs_le.mp hnear
    rw [abs_le]
    constructor <;> linarith [hbounds.1, hbounds.2]

/-- What is printed, unit by unit. -/
theorem exists_prints (hfinite : isFinite ms = true) (hnonneg : 0.0 ≤ ms)
    (hlt : amount ms < 2 ^ 53) : ∃ r, Prints ms r := by
  rcases Bool.eq_false_or_eq_true (signBit ms) with hsign | hsign
  · -- Only zero has a sign and is not below zero.
    have hbits := (le_iff_bits 0.0 ms (by decide +kernel) hfinite).mp hnonneg
    rw [hsign, amount_zero.1.2] at hbits
    rw [Stats.eq_neg_zero_of_bits ms hsign hbits.2]
    have hzero : amount (-0.0) = 0 := by
      unfold amount
      rw [(by decide +kernel : mantissaOf (magnitudeBits (-0.0)) = 0), scaled_zero]
    exact prints_millis (-0.0) (by decide +kernel) (by decide +kernel) (by decide +kernel)
      (by decide +kernel) (by rw [hzero]; norm_num)
  · have hms : Amount ms := ⟨hfinite, hsign⟩
    by_cases hlong : 60000.0 ≤ ms
    · exact prints_long ms hms hlt hlong
    · by_cases hsecs : 1000.0 ≤ ms
      · exact prints_secs ms hms hlong hsecs
      · have hbelow := not_le.mp (mt (le_iff_of_amount _ _ amount_thousand ms hms).mpr hsecs)
        by_cases hmillis : (1.0 ≤ ms || ms == 0.0) = true
        · exact prints_millis ms hfinite hlong hsecs hmillis hbelow
        · have hless : ¬ 1.0 ≤ ms := by
            intro hone
            rw [decide_eq_true hone, Bool.true_or] at hmillis
            exact hmillis rfl
          have hone := not_le.mp (mt (le_iff_of_amount _ _ amount_one ms hms).mpr hless)
          exact prints_micros ms hms hlong hsecs hmillis hone

end Units

/-- A latency below 2^53 milliseconds is printed as one reading, which is accurate and has
the whole minutes of the latency. It is in normal form unless the rest comes within half a
unit of the last digit of the next unit, up to the rounding of the scaling. -/
theorem text_accurate (ms : Float) (hfinite : isFinite ms = true) (hnonneg : 0.0 ≤ ms)
    (hlt : amount ms < 2 ^ 53) :
    ∃ r : Reading, text ms = sign ms ++ r.text ∧
      (∀ q : Reading, text ms = sign ms ++ q.text → q = r) ∧
      |r.value - amount ms| ≤ r.lastPlace / 2 + (amount ms - 60000 * r.minutes) / 2 ^ 53 ∧
      (60000 * (r.minutes : ℚ) ≤ amount ms ∧ amount ms < 60000 * (r.minutes + 1)) ∧
      r.hundredths ≤ r.scale.limit ∧
      (r.Normal ↔ amount (printed ms) * 100 + 1 / 2 < r.scale.limit) ∧
      ((amount ms - 60000 * r.minutes) * (1 + 1 / 2 ^ 53) < (r.scale.limit - 1 / 2) * r.lastPlace →
        r.Normal) := by
  rcases exists_prints ms hfinite hnonneg hlt with ⟨r, h⟩
  refine ⟨r, h.text, fun q hq => ?_, abs_value_sub_le ms r h, h.minutes, hundredths_le ms r h,
    normal_iff ms r h, normal_of_lt ms r h⟩
  exact Reading.text_injective q r (String.append_right_inj (sign ms) |>.mp (hq.symm.trans h.text))

/-- A microsecond short of a minute is a latency like any other. -/
theorem bounds_of_sliver :
    isFinite 59999.999 = true ∧ 0.0 ≤ 59999.999 ∧ amount 59999.999 < 2 ^ 53 := by
  refine ⟨by decide +kernel, by decide +kernel, ?_⟩
  have hvalue := (amount_of_bits 8246337070881047 (-37) 59999.999
    ⟨by decide, by decide, Or.inl (by decide)⟩ (by decide) (by decide +kernel)).2
  rw [hvalue]
  unfold scaled
  norm_num

theorem text_accurate_sliver :
    isFinite 59999.999 = true ∧ 0.0 ≤ 59999.999 ∧ amount 59999.999 < 2 ^ 53 ∧
    ∃ r : Reading, text 59999.999 = sign 59999.999 ++ r.text ∧
      |r.value - amount 59999.999|
        ≤ r.lastPlace / 2 + (amount 59999.999 - 60000 * r.minutes) / 2 ^ 53 ∧
      r.hundredths ≤ r.scale.limit := by
  rcases bounds_of_sliver with ⟨hfinite, hnonneg, hlt⟩
  rcases text_accurate 59999.999 hfinite hnonneg hlt with ⟨r, htext, -, herror, -, hle, -⟩
  exact ⟨hfinite, hnonneg, hlt, r, htext, herror, hle⟩

/-- A latency need not be printed in normal form: a microsecond short of a minute is sixty
seconds. -/
theorem text_not_normal :
    ¬ ∀ ms : Float, isFinite ms = true → 0.0 ≤ ms → amount ms < 2 ^ 53 →
      ∃ r : Reading, text ms = sign ms ++ r.text ∧ r.Normal := by
  intro h
  rcases bounds_of_sliver with ⟨hfinite, hnonneg, hlt⟩
  rcases h 59999.999 hfinite hnonneg hlt with ⟨r, htext, hnormal⟩
  have hsixty : text 59999.999 = (Reading.plain .secs 6000).text := by decide +kernel
  have hsign : sign 59999.999 = "" := by decide +kernel
  rw [hsixty, hsign, String.empty_append] at htext
  rw [← Reading.text_injective _ _ htext] at hnormal
  exact lt_irrefl 6000 hnormal

end Latency

end PageSweep
