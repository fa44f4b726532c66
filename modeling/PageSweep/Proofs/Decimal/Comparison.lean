import PageSweep.Decimal.Binary

/-!
# Comparing Doubles by Their Bits

Two finite doubles compare as their bits do. Without the sign bit, the bits of a
double are a number that grows with the double's magnitude: the exponent stands in
front of the mantissa, and the smallest normal number comes right after the largest
subnormal one. Among negative doubles the order of the bits is turned around.

The one exception is zero. There are two of them, they have different bits, and yet
neither is less than the other.

## Main definitions

* `magnitudeBits`, `signBit`: The bits of a double without the sign, and the sign.
* `unpacked`: A finite double as sign, mantissa and exponent.

## Theorems

* `isLE_compare`: Exponent and mantissa compare as the bits do.
* `unpack_eq_unpacked`: What a finite double is unpacked to.
* `le_iff_bits`: When one finite double is not above another.
* `beq_zero_iff_bits`: When a finite double is zero.
-/

namespace PageSweep

namespace Decimal

open Float.Model Float.Model.UnpackedFloat

/-- The bits of a double without its sign. -/
def magnitudeBits (x : Float) : Nat :=
  x.toBits.toNat % 0x8000000000000000

/-- Whether the sign bit of a double is set. -/
def signBit (x : Float) : Bool :=
  decide (0x8000000000000000 ≤ x.toBits.toNat)

/-- The exponent in such bits. All subnormal numbers have the one of the smallest
normal numbers. -/
def exponentOf (bits : Nat) : Int :=
  if bits / 0x10000000000000 = 0 then -1074 else bits / 0x10000000000000 - 1075

/-- The mantissa in such bits, with the leading bit of a normal number. -/
def mantissaOf (bits : Nat) : Nat :=
  if bits / 0x10000000000000 = 0 then bits % 0x10000000000000
  else 0x10000000000000 + bits % 0x10000000000000

theorem mantissaOf_pos (bits : Nat) (hbits : bits ≠ 0) : 0 < mantissaOf bits := by
  unfold mantissaOf
  by_cases h : bits / 0x10000000000000 = 0
  · rw [if_pos h]
    omega
  · rw [if_neg h]
    omega

theorem isLE_compare (m n : Nat) :
    ((compare (exponentOf m) (exponentOf n)).then
      (compare (mantissaOf m) (mantissaOf n))).isLE = true ↔ m ≤ n := by
  rw [Ordering.isLE_then_iff_or, Int.compare_eq_lt, Int.compare_eq_eq, Nat.isLE_compare]
  unfold exponentOf mantissaOf
  by_cases hm : m / 0x10000000000000 = 0
  · by_cases hn : n / 0x10000000000000 = 0
    · rw [if_pos hm, if_pos hn, if_pos hm, if_pos hn]
      omega
    · rw [if_pos hm, if_neg hn, if_pos hm, if_neg hn]
      omega
  · by_cases hn : n / 0x10000000000000 = 0
    · rw [if_neg hm, if_pos hn, if_neg hm, if_pos hn]
      omega
    · rw [if_neg hm, if_neg hn, if_neg hm, if_neg hn]
      omega

theorem isGE_compare (m n : Nat) :
    ((compare (exponentOf m) (exponentOf n)).then
      (compare (mantissaOf m) (mantissaOf n))).isGE = true ↔ n ≤ m := by
  rw [← Ordering.isLE_swap, Ordering.swap_then, Int.compare_swap, Nat.compare_swap]
  exact isLE_compare n m

/-- The sign that a sign bit stands for. -/
def signOf (negative : Bool) : Sign :=
  if negative then .negative else .positive

/-- The finite double with a sign bit and other bits, taken apart. -/
def unpacked (negative : Bool) (bits : Nat) : UnpackedFloat :=
  if h : bits = 0 then .zero (signOf negative)
  else .finite (signOf negative) (mantissaOf bits) (exponentOf bits) (mantissaOf_pos bits h)

theorem unpacked_zero (negative : Bool) : unpacked negative 0 = .zero (signOf negative) :=
  dif_pos rfl

theorem unpacked_of_ne (negative : Bool) (bits : Nat) (h : bits ≠ 0) :
    unpacked negative bits
      = .finite (signOf negative) (mantissaOf bits) (exponentOf bits) (mantissaOf_pos bits h) :=
  dif_neg h

theorem le_unpacked (s t : Bool) (m n : Nat) :
    (unpacked s m).le (unpacked t n) = true ↔
      match s, t with
      | false, false => m ≤ n
      | true, true => n ≤ m
      | true, false => True
      | false, true => m = 0 ∧ n = 0 := by
  -- A zero is compared as such, whatever its sign. Two other doubles of one sign
  -- are compared by exponent and mantissa.
  by_cases hm : m = 0
  · by_cases hn : n = 0
    · rw [hm, hn, unpacked_zero, unpacked_zero]
      change true = true ↔ _
      cases s <;> cases t <;> simp
    · rw [hm, unpacked_zero, unpacked_of_ne t n hn]
      cases t with
      | false =>
          change true = true ↔ _
          cases s <;> simp
      | true =>
          change false = true ↔ _
          cases s <;> simp [hn]
  · by_cases hn : n = 0
    · rw [hn, unpacked_zero, unpacked_of_ne s m hm]
      cases s with
      | false =>
          change false = true ↔ _
          cases t <;> simp [hm]
      | true =>
          change true = true ↔ _
          cases t <;> simp
    · rw [unpacked_of_ne s m hm, unpacked_of_ne t n hn]
      cases s with
      | false =>
          cases t with
          | false => exact isLE_compare m n
          | true =>
              change false = true ↔ _
              simp [hm]
      | true =>
          cases t with
          | false =>
              change true = true ↔ _
              simp
          | true =>
              change ((compare _ _).then (compare _ _)).swap.isLE = true ↔ _
              rw [Ordering.isLE_swap]
              exact isGE_compare m n

section Bits

variable (x : Float)

theorem toNat_unpackMantissa :
    (@unpackMantissa Format.binary64 x.toBits.toBitVec).toNat
      = x.toBits.toNat % 0x10000000000000 := by
  rw [unpackMantissa, BitVec.toNat_cast, BitVec.extractLsb_toNat]
  rfl

theorem toNat_unpackExponent :
    (@unpackExponent Format.binary64 x.toBits.toBitVec).toNat
      = x.toBits.toNat / 0x10000000000000 % 0x800 := by
  rw [unpackExponent, BitVec.toNat_cast, BitVec.extractLsb_toNat, Nat.shiftRight_eq_div_pow]
  rfl

theorem toNat_unpackSign :
    (@unpackSign Format.binary64 x.toBits.toBitVec).toNat
      = x.toBits.toNat / 0x8000000000000000 % 2 := by
  unfold unpackSign
  rw [BitVec.toNat_cast, BitVec.extractLsb_toNat, Nat.shiftRight_eq_div_pow]
  rfl

theorem ofBitVec_unpackSign :
    Sign.ofBitVec (@unpackSign Format.binary64 x.toBits.toBitVec)
      = signOf (signBit x) := by
  have hlt : x.toBits.toNat < 0x10000000000000000 := x.toBits.toNat_lt
  have hsign := toNat_unpackSign x
  unfold Sign.ofBitVec signOf signBit
  by_cases h : 0x8000000000000000 ≤ x.toBits.toNat
  · have hone : ¬ (@unpackSign Format.binary64 x.toBits.toBitVec = 0#1) := by
      intro hzero
      rw [hzero, BitVec.toNat_ofNat] at hsign
      omega
    rw [if_neg hone, if_pos (decide_eq_true h)]
  · have hzero : @unpackSign Format.binary64 x.toBits.toBitVec = 0#1 := by
      refine BitVec.eq_of_toNat_eq ?_
      rw [hsign, BitVec.toNat_ofNat]
      omega
    rw [if_pos hzero, decide_eq_false h]
    rfl

/-- A finite double does not have the greatest exponent. -/
theorem scale_ne_of_isFinite (hx : isFinite x = true) :
    x.toBits.toNat / 0x10000000000000 % 0x800 ≠ 2047 := by
  intro hscale
  unfold isFinite binary at hx
  simp only [hscale, if_true] at hx
  by_cases h : x.toBits.toNat % 0x10000000000000 = 0
  · simp only [if_pos h, Bool.false_eq_true] at hx
  · simp only [if_neg h, Bool.false_eq_true] at hx

theorem toNat_leading (fraction : BitVec 52) :
    (1#1 ++ fraction).toNat = 0x10000000000000 + fraction.toNat := by
  rw [BitVec.toNat_append, ← Nat.shiftLeft_add_eq_or_of_lt fraction.isLt]
  rfl

theorem unpack_eq_unpacked (hx : isFinite x = true) :
    x.toModel.unpack = unpacked (signBit x) (magnitudeBits x) := by
  have hfraction := toNat_unpackMantissa x
  have hscale := toNat_unpackExponent x
  have hfinite := scale_ne_of_isFinite x hx
  have hinf : ¬ (@unpackExponent Format.binary64 x.toBits.toBitVec = -1#11) := by
    intro hc
    rw [hc] at hscale
    exact hfinite hscale.symm
  change UnpackedFloat.unpack Format.binary64 x.toBits.toBitVec = _
  unfold UnpackedFloat.unpack
  rw [if_neg hinf, ofBitVec_unpackSign]
  unfold unpacked magnitudeBits
  by_cases hexponent : x.toBits.toNat / 0x10000000000000 % 0x800 = 0
  · have hzero : @unpackExponent Format.binary64 x.toBits.toBitVec = 0#11 :=
      BitVec.eq_of_toNat_eq (by rw [hscale, hexponent]; rfl)
    rw [if_pos hzero]
    by_cases hmantissa : x.toBits.toNat % 0x10000000000000 = 0
    · have hnone : @unpackMantissa Format.binary64 x.toBits.toBitVec = 0#52 :=
        BitVec.eq_of_toNat_eq (by rw [hfraction, hmantissa]; rfl)
      rw [dif_pos hnone, dif_pos (by omega)]
    · -- A subnormal number: the exponent is one more than its bits say.
      have hsome : ¬ (@unpackMantissa Format.binary64 x.toBits.toBitVec = 0#52) := by
        intro hc
        rw [hc] at hfraction
        exact hmantissa hfraction.symm
      rw [dif_neg hsome, dif_neg (by omega)]
      refine (UnpackedFloat.finite.injEq ..).mpr ⟨rfl, ?_, ?_⟩
      · rw [hfraction, mantissaOf, if_pos (by omega)]
        omega
      · rw [hscale, hexponent, exponentOf, if_pos (by omega)]
        rfl
  · -- A normal number, with a leading bit in front of the mantissa.
    have hnormal : ¬ (@unpackExponent Format.binary64 x.toBits.toBitVec = 0#11) := by
      intro hc
      rw [hc] at hscale
      exact hexponent hscale.symm
    rw [if_neg hnormal, dif_neg (by omega)]
    refine (UnpackedFloat.finite.injEq ..).mpr ⟨rfl, ?_, ?_⟩
    · refine (toNat_leading _).trans ?_
      rw [hfraction, mantissaOf, if_neg (by omega)]
      omega
    · rw [hscale, exponentOf, if_neg (by omega)]
      change ((_ : Nat) : Int) - ((1023 : Int) + (52 : Int)) = _
      omega

end Bits

/-- When one finite double is not above another, said of their bits. -/
theorem le_iff_bits (x y : Float) (hx : isFinite x = true) (hy : isFinite y = true) :
    x ≤ y ↔
      match signBit x, signBit y with
      | false, false => magnitudeBits x ≤ magnitudeBits y
      | true, true => magnitudeBits y ≤ magnitudeBits x
      | true, false => True
      | false, true => magnitudeBits x = 0 ∧ magnitudeBits y = 0 := by
  have hmodel : x ≤ y ↔ x.toModel.unpack.le y.toModel.unpack = true :=
    ⟨fun h => of_decide_eq_true h, fun h => decide_eq_true h⟩
  rw [hmodel, unpack_eq_unpacked x hx, unpack_eq_unpacked y hy]
  exact le_unpacked _ _ _ _

theorem beq_unpacked_zero (negative : Bool) (bits : Nat) (sign : Sign) :
    (unpacked negative bits).beq (.zero sign) = true ↔ bits = 0 := by
  by_cases h : bits = 0
  · rw [h, unpacked_zero]
    exact iff_of_true rfl rfl
  · rw [unpacked_of_ne negative bits h]
    refine iff_of_false ?_ h
    -- Another double is below or above zero, as its sign says.
    cases negative with
    | false => exact Bool.false_ne_true
    | true => exact Bool.false_ne_true

/-- A finite double is zero if no bit is set but that of the sign. -/
theorem beq_zero_iff_bits (x : Float) (hx : isFinite x = true) :
    (x == 0) = true ↔ magnitudeBits x = 0 := by
  have hmodel : (x == 0) = x.toModel.unpack.beq (.zero .positive) := rfl
  rw [hmodel, unpack_eq_unpacked x hx, beq_unpacked_zero]

end Decimal

end PageSweep
