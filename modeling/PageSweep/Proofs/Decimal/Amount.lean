import Mathlib.Tactic.NormNum
import PageSweep.Proofs.Decimal.Rounding

/-!
# Amounts

An amount is a double that is finite and has no sign: times and totals are such. As long
as nothing overflows, amounts are added, divided and read off whole numbers as numbers
are, up to rounding.

## Main definitions

* `Amount`: A double that is finite and has no sign.
* `amount`: The number that it stands for.

## Theorems

* `isFinite_neg`: The sign of a finite double turned around.
* `amount_pack`: Packing a double that does not overflow.
* `amount_add`, `amount_mul`, `amount_div`: The operations.
* `amount_toFloat`, `amount_ofNat`: Whole numbers as doubles.
* `amount_ofNat_le`, `amount_div_le`, `amount_add_le`: Bounds that rounding keeps.
* `amount_zero` and its likes: The constants that times are measured with.
* `le_of_amount`: An amount is not below zero.
-/

namespace PageSweep

namespace Decimal

open Float.Model Float.Model.UnpackedFloat

/-- A double that is finite and has no sign. -/
def Amount (x : Float) : Prop := isFinite x = true ∧ signBit x = false

/-- The number that an amount stands for. -/
def amount (x : Float) : ℚ :=
  scaled (mantissaOf (magnitudeBits x)) (exponentOf (magnitudeBits x))

theorem amount_nonneg (x : Float) : 0 ≤ amount x := scaled_nonneg _ _

section Bits

variable (m : Nat) (e : Int)

theorem canonical_bits (bits : Nat) : Canonical (mantissaOf bits) (exponentOf bits) := by
  unfold mantissaOf exponentOf
  by_cases h : bits / 0x10000000000000 = 0
  · rw [if_pos h, if_pos h]
    exact ⟨by omega, le_refl _, Or.inr rfl⟩
  · rw [if_neg h, if_neg h]
    exact ⟨by omega, by omega, Or.inl (by omega)⟩

/-- What an amount is unpacked to. -/
theorem unpack_of_amount (x : Float) (hx : Amount x) :
    x.toModel.unpack = ofPair (mantissaOf (magnitudeBits x)) (exponentOf (magnitudeBits x)) := by
  rw [unpack_eq_unpacked x hx.1, hx.2]
  by_cases h : magnitudeBits x = 0
  · rw [h, unpacked_zero]
    rfl
  · rw [unpacked_of_ne false _ h, ofPair_of_ne _ _ (mantissaOf_pos _ h).ne']
    rfl

theorem toNat_packComponents (sign : Sign) (exponent : BitVec 11) (fraction : BitVec 52) :
    (packComponents Format.binary64 sign exponent fraction).toNat
      = sign.toBitVec.toNat * 0x8000000000000000
        + exponent.toNat * 0x10000000000000 + fraction.toNat := by
  have hexponent := exponent.isLt
  rw [packComponents, BitVec.toNat_append, ← Nat.shiftLeft_add_eq_or_of_lt fraction.isLt,
    BitVec.toNat_append, ← Nat.shiftLeft_add_eq_or_of_lt exponent.isLt, Nat.shiftLeft_eq,
    Nat.shiftLeft_eq, Nat.add_mul, Nat.mul_assoc]

/-- The bits of a double in its form, which is not zero: the exponent stands in front of
the mantissa, and the leading bit of the mantissa adds one to it. -/
theorem toNat_pack_finite (sign : Sign) (hm : 0 < m) (h : Canonical m e) (he : e ≤ 971) :
    (UnpackedFloat.pack Format.binary64 (.finite sign m e hm)).toNat
      = sign.toBitVec.toNat * 0x8000000000000000
        + (e + 1074).toNat * 0x10000000000000 + m := by
  have hlt := h.lt
  have hleast := h.least
  change (if 2048 ≤ (e + 1023 + 52).toNat + 1 then packedInfinity Format.binary64 sign
    else if m.log2 + 1 = 53 then packComponents Format.binary64 sign
      (BitVec.ofNat 11 (e + 1023 + 52).toNat) (BitVec.ofNat 52 m)
    else packComponents Format.binary64 sign 0#11 (BitVec.ofNat 52 m)).toNat = _
  rw [if_neg (by omega)]
  -- The leading bit of a long mantissa is not kept, and a short one has none.
  by_cases hlong : 2 ^ 52 ≤ m
  · have hlog := le_log2_of_le m hlong
    have hlog' := log2_le_of_lt m hlt
    rw [if_pos (by omega), toNat_packComponents, BitVec.toNat_ofNat, BitVec.toNat_ofNat]
    omega
  · have hexponent := h.normal.resolve_left hlong
    have hlog : m.log2 < 52 := (Nat.log2_lt hm.ne').mpr (by omega)
    rw [if_neg (by omega), toNat_packComponents, BitVec.toNat_ofNat, BitVec.toNat_ofNat]
    omega

theorem toNat_pack (h : Canonical m e) (he : e ≤ 971) :
    (UnpackedFloat.pack Format.binary64 (ofPair m e)).toNat
      = (e + 1074).toNat * 0x10000000000000 + m := by
  by_cases hzero : m = 0
  · have hexponent : e = -1074 := h.normal.resolve_left (by omega)
    rw [hzero, hexponent]
    rfl
  · rw [ofPair_of_ne m e hzero, toNat_pack_finite m e .positive _ h he]
    have hsign : (Sign.toBitVec .positive).toNat = 0 := rfl
    rw [hsign, Nat.zero_mul, Nat.zero_add]

/-- A double without the greatest exponent is finite. -/
theorem isFinite_of_scale (x : Float)
    (h : x.toBits.toNat / 0x10000000000000 % 0x800 ≠ 2047) : isFinite x = true := by
  unfold isFinite binary
  simp only [if_neg h]
  by_cases hsub : x.toBits.toNat / 0x10000000000000 % 0x800 = 0
  · rw [if_pos hsub]
  · rw [if_neg hsub]

/-- The bits that stand for an amount, and the number that they stand for. -/
theorem amount_of_bits (x : Float) (h : Canonical m e) (he : e ≤ 971)
    (hbits : x.toBits.toNat = (e + 1074).toNat * 0x10000000000000 + m) :
    Amount x ∧ amount x = scaled m e := by
  have hlt := h.lt
  have hleast := h.least
  have hnormal := h.normal
  have hmagnitude : magnitudeBits x = (e + 1074).toNat * 0x10000000000000 + m := by
    rw [magnitudeBits, hbits]
    omega
  refine ⟨⟨?_, ?_⟩, ?_⟩
  · exact isFinite_of_scale x (by omega)
  · unfold signBit
    exact decide_eq_false (by omega)
  · rw [amount, hmagnitude]
    unfold mantissaOf exponentOf
    by_cases hlong : 2 ^ 52 ≤ m
    · rw [if_neg (by omega), if_neg (by omega)]
      congr 1
      · omega
      · omega
    · have hexponent := hnormal.resolve_left hlong
      rw [if_pos (by omega), if_pos (by omega)]
      congr 1
      · omega
      · omega

/-- Turning the sign of a finite double around leaves it finite. -/
theorem isFinite_neg (x : Float) (hx : isFinite x = true) : isFinite (-x) = true := by
  have hneg : -x = .ofModel (.pack x.toModel.unpack.neg) := rfl
  rw [hneg, unpack_eq_unpacked x hx]
  by_cases hbits : magnitudeBits x = 0
  · rw [hbits, unpacked_zero]
    cases signBit x <;> decide +kernel
  · rw [unpacked_of_ne _ _ hbits]
    have hcanonical := canonical_bits (magnitudeBits x)
    have hscale := scale_ne_of_isFinite x hx
    have hexponent : exponentOf (magnitudeBits x) ≤ 971 := by
      unfold exponentOf magnitudeBits
      by_cases h : x.toBits.toNat % 0x8000000000000000 / 0x10000000000000 = 0
      · rw [if_pos h]
        decide
      · rw [if_neg h]
        omega
    have hlt := hcanonical.lt
    have hleast := hcanonical.least
    have hpos := mantissaOf_pos _ hbits
    have hpacked := toNat_pack_finite _ _ (-signOf (signBit x)) hpos hcanonical hexponent
    have hsign := (-signOf (signBit x)).toBitVec.isLt
    refine isFinite_of_scale _ ?_
    change (UnpackedFloat.pack Format.binary64 (.finite (-signOf (signBit x)) _ _ hpos)).toNat
      / 0x10000000000000 % 0x800 ≠ 2047
    rw [hpacked]
    omega

/-- A double in its form, packed, if it is not too large. -/
theorem amount_ofPair (h : Canonical m e) (hle : scaled m e ≤ scaled 1 1023) :
    Amount (.ofModel (.pack (ofPair m e))) ∧
    amount (.ofModel (.pack (ofPair m e))) = scaled m e := by
  have he : e ≤ 971 := by
    rcases h.normal with hlong | hleast
    · -- A greater exponent would make the number too large.
      by_contra hgreat
      have hlarge : scaled (2 ^ 52) 972 ≤ scaled m e :=
        (scaled_le_of_le _ _ _ hlong).trans (scaled_le_of_exponent_le _ _ _ (by omega))
      rw [scaled_two_pow] at hlarge
      have hfalse := hlarge.trans hle
      unfold scaled at hfalse
      rw [mul_le_mul_iff_of_pos_left (by decide), zpow_le_zpow_iff_right₀ (by decide)] at hfalse
      exact absurd hfalse (by decide)
    · omega
  exact amount_of_bits m e (.ofModel (.pack (ofPair m e))) h he (toNat_pack m e h he)

/-- What a number is rounded to, packed, if it is not too large. -/
theorem amount_pack (x : ℚ) (u : UnpackedFloat) (h : RoundsTo x u) (hx : x ≤ scaled 1 1023) :
    Amount (.ofModel (.pack u)) ∧ Rounds x (amount (.ofModel (.pack u))) := by
  rcases h with ⟨m, e, hcanonical, rfl, hrounds⟩
  have hle : scaled m e ≤ scaled 1 1023 :=
    (hrounds _ (grid_scaled 1 1023 (by decide) (by decide))).1 hx
  rcases amount_ofPair m e hcanonical hle with ⟨hamount, hvalue⟩
  rw [hvalue]
  exact ⟨hamount, hrounds⟩

end Bits

section Operations

variable (x y : Float) (hx : Amount x) (hy : Amount y)
include hx hy

theorem amount_add (h : amount x + amount y ≤ scaled 1 1023) :
    Amount (x + y) ∧ Rounds (amount x + amount y) (amount (x + y)) := by
  have hsum := roundsTo_add _ _ _ _ (canonical_bits (magnitudeBits x))
    (canonical_bits (magnitudeBits y))
  rw [← unpack_of_amount x hx, ← unpack_of_amount y hy] at hsum
  exact amount_pack _ _ hsum h

theorem amount_mul (h : amount x * amount y ≤ scaled 1 1023) :
    Amount (x * y) ∧ Rounds (amount x * amount y) (amount (x * y)) := by
  have hproduct := roundsTo_mul _ _ _ _ (canonical_bits (magnitudeBits x))
    (canonical_bits (magnitudeBits y))
  rw [← unpack_of_amount x hx, ← unpack_of_amount y hy] at hproduct
  exact amount_pack _ _ hproduct h

theorem amount_div (hpos : 0 < amount y) (h : amount x / amount y ≤ scaled 1 1023) :
    Amount (x / y) ∧ Rounds (amount x / amount y) (amount (x / y)) := by
  have hne : mantissaOf (magnitudeBits y) ≠ 0 := by
    intro hzero
    rw [amount, hzero, scaled_zero] at hpos
    exact lt_irrefl _ hpos
  have hquotient := roundsTo_div (mantissaOf (magnitudeBits x)) _ (exponentOf (magnitudeBits x))
    (exponentOf (magnitudeBits y)) hne
  rw [← unpack_of_amount x hx, ← unpack_of_amount y hy] at hquotient
  exact amount_pack _ _ hquotient h

end Operations

section Whole

theorem natCast_le_scaled (n k : Nat) (h : n ≤ 2 ^ k) : (n : ℚ) ≤ scaled 1 k := by
  have hpow := scaled_two_pow 0 k
  rw [zero_add, scaled_natCast] at hpow
  rw [← hpow]
  exact Nat.cast_le.mpr h

theorem amount_toFloat (n : UInt64) :
    Amount n.toFloat ∧ Rounds n.toNat (amount n.toFloat) := by
  refine amount_pack _ _ (roundsTo_ofNat n.toNat) ?_
  have hlt := n.toNat_lt
  exact (natCast_le_scaled n.toNat 64 (by omega)).trans
    (scaled_le_of_exponent_le _ _ _ (by decide))

/-- A whole number of up to 53 bits is a double itself. -/
theorem eq_of_rounds_natCast (n : Nat) (r : ℚ) (hn : n ≤ 2 ^ 53) (h : Rounds n r) : r = n :=
  eq_of_rounds _ _ (grid_natCast n hn) h

/-- The double one, by its bits. -/
theorem amount_one : Amount (Float.ofBits 0x3FF0000000000000) ∧
    amount (Float.ofBits 0x3FF0000000000000) = 1 := by
  have h := amount_of_bits (2 ^ 52) (-52) (Float.ofBits 0x3FF0000000000000)
    ⟨by decide, by decide, Or.inl (le_refl _)⟩ (by decide) (by decide +kernel)
  have hone := scaled_cancel 1 52
  rw [one_mul, Nat.cast_one] at hone
  exact ⟨h.1, h.2.trans hone⟩

/-- A whole number is read in one of two ways, depending on its size. -/
theorem amount_ofNat (n : Nat) (hn : (n : ℚ) ≤ scaled 1 1023) :
    Amount (Float.ofNat n) ∧ Rounds n (amount (Float.ofNat n)) := by
  by_cases hsmall : n < 2 ^ 53
  · have hread : Float.ofNat n
        = n.toUInt64.toFloat * Float.ofBits 0x3FF0000000000000 :=
      dif_pos (And.intro hsmall (Nat.zero_le 22))
    rcases amount_toFloat n.toUInt64 with ⟨hamount, hrounds⟩
    have hword : n.toUInt64.toNat = n := Nat.mod_eq_of_lt (by omega)
    rw [hword] at hrounds
    have hvalue := eq_of_rounds_natCast n _ hsmall.le hrounds
    have hproduct := amount_mul _ _ hamount amount_one.1
    rw [hvalue, amount_one.2, mul_one] at hproduct
    rw [hread]
    exact hproduct hn
  · have hread : Float.ofNat n
        = .ofModel (.pack (UnpackedFloat.ofScientific Format.binary64 n 0)) :=
      dif_neg fun h => hsmall h.1
    rw [hread]
    exact amount_pack _ _ (roundsTo_ofScientific n) hn

end Whole

section Bounds

/-- The largest double is still larger than this. -/
theorem scaled_le_largest (m : Nat) (e : Int) (hm : m ≤ 2 ^ 53) (he : e ≤ 970) :
    scaled m e ≤ scaled 1 1023 := by
  refine (scaled_le_of_le _ _ _ hm).trans ?_
  rw [scaled_two_pow]
  exact scaled_le_of_exponent_le _ _ _ (by push_cast; omega)

theorem natCast_le_largest (n : Nat) (hn : n ≤ 2 ^ 53) : (n : ℚ) ≤ scaled 1 1023 :=
  (natCast_le_scaled n 53 hn).trans (scaled_le_largest 1 53 (by decide) (by decide))

/-- A double below 2^53 is a whole number of units that divide one. -/
theorem exponent_nonpos (m : Nat) (e : Int) (h : Canonical m e) (hlt : scaled m e < 2 ^ 53) :
    e ≤ 0 := by
  by_contra hgreat
  -- With a positive exponent there is a leading bit, and the double would be greater.
  have hlong := h.normal.resolve_right (by omega)
  have hlarge : scaled (2 ^ 52) 1 ≤ scaled m e :=
    (scaled_le_of_le _ _ _ hlong).trans (scaled_le_of_exponent_le _ _ _ (by omega))
  have hpow : scaled (2 ^ 52) 1 = 2 ^ 53 := by
    unfold scaled
    norm_num
  rw [hpow] at hlarge
  exact absurd hlt (not_lt.mpr hlarge)

/-- A whole number as a double: what is at most a power of two stays so, and what is not
zero stays one at least. -/
theorem amount_ofNat_le (n k : Nat) (hn : n ≤ 2 ^ k) (hk : k ≤ 970) :
    Amount (Float.ofNat n) ∧ amount (Float.ofNat n) ≤ scaled 1 k ∧
    (n ≠ 0 → scaled 1 0 ≤ amount (Float.ofNat n)) := by
  have hle := natCast_le_scaled n k hn
  rcases amount_ofNat n (hle.trans (scaled_le_largest 1 k (by decide) (by omega)))
    with ⟨hamount, hrounds⟩
  refine ⟨hamount, (hrounds _ (grid_scaled 1 k (by decide) (by omega))).1 hle, fun hne => ?_⟩
  refine (hrounds _ (grid_scaled 1 0 (by decide) (by decide))).2 ?_
  rw [scaled_natCast]
  exact Nat.cast_le.mpr (Nat.one_le_iff_ne_zero.mpr hne)

/-- A small whole number is a double itself. -/
theorem amount_ofNat_eq (n : Nat) (hn : n ≤ 2 ^ 53) :
    Amount (Float.ofNat n) ∧ amount (Float.ofNat n) = n := by
  rcases amount_ofNat n (natCast_le_largest n hn) with ⟨hamount, hrounds⟩
  exact ⟨hamount, eq_of_rounds_natCast n _ hn hrounds⟩

/-- Dividing by one or more keeps every bound that is a double. -/
theorem amount_div_le (x y : Float) (hx : Amount x) (hy : Amount y) (hone : 1 ≤ amount y)
    (m : Nat) (e : Int) (hm : m ≤ 2 ^ 53) (he : -1074 ≤ e) (he' : e ≤ 970)
    (hle : amount x ≤ scaled m e) : Amount (x / y) ∧ amount (x / y) ≤ scaled m e := by
  have hquotient : amount x / amount y ≤ scaled m e :=
    (div_le_self (amount_nonneg x) hone).trans hle
  rcases amount_div x y hx hy (lt_of_lt_of_le one_pos hone)
    (hquotient.trans (scaled_le_largest m e hm he')) with ⟨hamount, hrounds⟩
  exact ⟨hamount, (hrounds _ (grid_scaled m e hm he)).1 hquotient⟩

/-- A sum keeps every bound that is a double. -/
theorem amount_add_le (x y : Float) (hx : Amount x) (hy : Amount y)
    (m : Nat) (e : Int) (hm : m ≤ 2 ^ 53) (he : -1074 ≤ e) (he' : e ≤ 970)
    (hle : amount x + amount y ≤ scaled m e) : Amount (x + y) ∧ amount (x + y) ≤ scaled m e := by
  rcases amount_add x y hx hy (hle.trans (scaled_le_largest m e hm he')) with ⟨hamount, hrounds⟩
  exact ⟨hamount, (hrounds _ (grid_scaled m e hm he)).1 hle⟩

end Bounds

section Constants

/-- Zero, and the nanoseconds of a millisecond and of a second. -/
theorem amount_zero : Amount 0.0 ∧ amount 0.0 = 0 := by
  have h := amount_of_bits 0 (-1074) 0.0 canonical_zero (by decide) (by decide +kernel)
  rw [scaled_zero] at h
  exact h

theorem amount_million : Amount 1000000.0 ∧ amount 1000000.0 = 1000000 := by
  have h := amount_of_bits (1000000 * 2 ^ 33) (-33) 1000000.0
    ⟨by decide, by decide, Or.inl (by decide)⟩ (by decide) (by decide +kernel)
  exact ⟨h.1, h.2.trans (scaled_cancel 1000000 33)⟩

theorem amount_billion : Amount 1000000000.0 ∧ amount 1000000000.0 = 1000000000 := by
  have h := amount_of_bits (1000000000 * 2 ^ 23) (-23) 1000000000.0
    ⟨by decide, by decide, Or.inl (by decide)⟩ (by decide) (by decide +kernel)
  exact ⟨h.1, h.2.trans (scaled_cancel 1000000000 23)⟩

/-- An amount is not below zero. -/
theorem le_of_amount (x : Float) (hx : Amount x) : 0.0 ≤ x := by
  rw [le_iff_bits 0.0 x amount_zero.1.1 hx.1, amount_zero.1.2, hx.2]
  have hzero : magnitudeBits 0.0 = 0 := by decide +kernel
  rw [hzero]
  exact Nat.zero_le _

end Constants

end Decimal

end PageSweep
