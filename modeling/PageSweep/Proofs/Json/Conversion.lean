import PageSweep.Proofs.Decimal.Amount
import PageSweep.Proofs.Json.Grammar

/-!
# The Conversion of Decimal Numbers

The reader converts a number to the double that the grammar has for it, and that double
is finite. Multiplying is the only step that can leave the doubles, and it is looked after.
Dividing by a power of ten keeps a number below its bound, however often it is done.

The digits of a significand are gathered from the left, so the induction is over the
digits, with those before them as what it generalizes over. A power of ten is divided out
in steps of 308 zeros, and there the induction is over these steps.

A number that is short enough is rounded only once, and no double lies between it and
what it is converted to.

## Theorems

* `significand_of_gathered`, `exists_gathered`: The digits of a significand.
* `scaled?_eq_some_iff`: A power of ten.
* `isFinite_of_scaled`: What a significand is scaled to is finite.
* `double?_eq_some_iff`, `isFinite_of_means`: The double of a number.
* `exists_scaled_short`: The double of a short number.
-/

namespace PageSweep

namespace Json

namespace Reader

open Decimal Grammar

section Digits

theorem decimal_append_singleton (front : List Char) (c : Char) :
    Numeral.decimal (front ++ [c]) = Numeral.decimal front * 10 + (c.toNat - '0'.toNat) := by
  rw [Numeral.decimal, List.foldl_append]
  rfl

/-- More digits do not make a number smaller. -/
theorem decimal_le_append (front back : List Char) :
    Numeral.decimal front ≤ Numeral.decimal (front ++ back) := by
  induction back generalizing front with
  | nil => rw [List.append_nil]
  | cons c rest ih =>
      have hstep := decimal_append_singleton front c
      have hrest := ih (front ++ [c])
      rw [List.append_assoc, List.singleton_append] at hrest
      omega

theorem significand_of_gathered (front kept left : List Char) (h : Gathered front kept left) :
    significand (Numeral.decimal front) (kept ++ left)
      = (Numeral.decimal (front ++ kept), left) := by
  -- The induction is over what is kept. Every digit moves to the front, and the bound on the
  -- whole number is one on each number on the way to it.
  induction kept generalizing front with
  | nil =>
      rw [List.nil_append, List.append_nil]
      cases left with
      | nil => rfl
      | cons c rest =>
          have hfull := h.full c rest rfl
          rw [List.append_nil, decimal_append_singleton] at hfull
          rw [significand]
          exact if_neg (Nat.not_lt.mpr hfull)
  | cons c kept ih =>
      have hsplit : front ++ c :: kept = front ++ [c] ++ kept := by
        rw [List.append_assoc, List.singleton_append]
      have hfits := h.fits
      have hfull := h.full
      rw [hsplit] at hfits hfull ⊢
      have hroom := (decimal_le_append (front ++ [c]) kept).trans_lt hfits
      have hrest := ih (front ++ [c]) ⟨hfits, hfull⟩
      rw [decimal_append_singleton] at hroom hrest
      rw [List.cons_append, significand, ← hrest]
      exact if_pos hroom

theorem exists_gathered (front digits : List Char) (h : Numeral.decimal front < 2 ^ 64) :
    ∃ kept left, digits = kept ++ left ∧ Gathered front kept left := by
  induction digits generalizing front with
  | nil =>
      refine ⟨[], [], rfl, ?_, fun c rest heq => nomatch heq⟩
      rw [List.append_nil]
      exact h
  | cons c digits ih =>
      by_cases hroom : Numeral.decimal (front ++ [c]) < 2 ^ 64
      · rcases ih (front ++ [c]) hroom with ⟨kept, left, rfl, hfits, hfull⟩
        have hsplit : front ++ [c] ++ kept = front ++ c :: kept := by
          rw [List.append_assoc, List.singleton_append]
        rw [hsplit] at hfits hfull
        exact ⟨c :: kept, left, rfl, hfits, hfull⟩
      · refine ⟨[], c :: digits, rfl, ?_, fun d rest heq => ?_⟩
        · rw [List.append_nil]
          exact h
        · rw [List.append_nil, ← (List.cons.inj heq).1]
          exact Nat.not_lt.mp hroom

end Digits

section Powers

theorem scaled?_eq_some_iff (x y : Float) (scale : Int) :
    scaled? x scale = some y ↔ Scaled x scale y := by
  -- The first direction goes along the turns of the function, of which two give nothing, and
  -- the second one along the rules.
  constructor
  · intro h
    fun_induction scaled? x scale with
    | case1 x scale hsmall hpos product hfinite =>
        rw [← Option.some.inj h]
        obtain ⟨k, rfl⟩ := Int.eq_ofNat_of_zero_le hpos
        exact .multiplied x k hsmall hfinite
    | case3 x scale hsmall hneg =>
        rw [← Option.some.inj h]
        have hscale : scale = -(scale.natAbs : Int) := by omega
        rw [hscale, Int.natAbs_neg, Int.natAbs_natCast]
        exact .divided x scale.natAbs (by omega) hsmall
    | case4 x scale hlarge hzero =>
        rw [← Option.some.inj h]
        exact .zero x scale (Nat.not_le.mp hlarge) hzero
    | case6 x scale hlarge hzero hneg ih =>
        exact .more x y scale (by omega) (Bool.not_eq_true _ ▸ hzero) (ih h)
    | case2 | case5 => exact absurd h (by simp only [reduceCtorEq, not_false_eq_true])
  · intro h
    induction h with
    | multiplied x k hk hfinite =>
        rw [scaled?, if_pos (by omega), if_pos (by omega)]
        exact if_pos hfinite
    | divided x k hpos hk =>
        rw [scaled?, if_pos (by omega), if_neg (by omega), Int.natAbs_neg, Int.natAbs_natCast]
    | zero x scale hscale hx => rw [scaled?, if_neg (by omega), if_pos hx]
    | more x y scale hscale hx _ ih =>
        rw [scaled?, if_neg (by omega), if_neg (by rw [hx]; exact Bool.false_ne_true),
          if_neg (by omega)]
        exact ih

/-- A double as large as a significand can be. -/
def Small (x : Float) : Prop :=
  Amount x ∧ amount x ≤ scaled 1 64

theorem small_toFloat (n : UInt64) : Small n.toFloat := by
  rcases amount_toFloat n with ⟨hamount, hrounds⟩
  have hlt := n.toNat_lt
  refine ⟨hamount, (hrounds _ (grid_scaled 1 64 (by decide) (by decide))).1 ?_⟩
  exact natCast_le_scaled n.toNat 64 (by omega)

/-- A power of ten is an amount, and not less than one. The greatest is above the bound up
to which amounts are known to be rounded, so it is taken apart. -/
theorem amount_tenTo (k : Nat) (hk : k ≤ 308) : Amount (tenTo k) ∧ 1 ≤ amount (tenTo k) := by
  by_cases hlast : k = 308
  · subst hlast
    rcases amount_of_bits 0x11CCF385EBC8A0 971 (tenTo 308)
      ⟨by decide, by decide, Or.inl (by decide)⟩ (le_refl _) (by decide +kernel)
      with ⟨hamount, hvalue⟩
    rw [hvalue]
    refine ⟨hamount, ?_⟩
    have hone := scaled_natCast 1
    rw [Nat.cast_one] at hone
    rw [← hone]
    exact (scaled_le_of_le 1 _ 0 (by decide)).trans
      (scaled_le_of_exponent_le _ 0 971 (by decide))
  · have hbound : 10 ^ k ≤ 2 ^ 1023 := by
      refine (Nat.pow_le_pow_right (by decide) (by omega : k ≤ 307)).trans ?_
      decide +kernel
    have hle := natCast_le_scaled (10 ^ k) 1023 hbound
    rcases amount_ofNat (10 ^ k) hle with ⟨hamount, hrounds⟩
    refine ⟨hamount, ?_⟩
    have hone := (hrounds (1 : Nat) (grid_natCast 1 (by decide))).2
    rw [Nat.cast_one] at hone
    refine hone ?_
    exact_mod_cast Nat.one_le_pow k 10 (by decide)

theorem small_div_tenTo (x : Float) (hx : Small x) (k : Nat) (hk : k ≤ 308) :
    Small (x / tenTo k) :=
  amount_div_le x (tenTo k) hx.1 (amount_tenTo k hk).1 (amount_tenTo k hk).2 1 64 (by decide)
    (by decide) (by decide) hx.2

/-- What a significand is scaled to is finite. -/
theorem isFinite_of_scaled (x y : Float) (scale : Int) (hx : Small x) (h : Scaled x scale y) :
    isFinite y = true := by
  induction h with
  | multiplied x k hk hfinite => exact hfinite
  -- Dividing keeps a number small, so only a product has to be looked after.
  | divided x k hpos hk => exact (small_div_tenTo x hx k hk).1.1
  | zero x scale hscale hzero => exact hx.1.1
  | more x y scale hscale hzero _ ih => exact ih (small_div_tenTo x hx 308 (le_refl _))

/-- A power of ten of up to 22 zeros is a double itself. -/
theorem amount_tenTo_eq (k : Nat) (hk : k ≤ 22) : amount (tenTo k) = 10 ^ k := by
  -- The power of five fits in a mantissa, and the power of two goes to the exponent.
  have hsplit : 10 ^ k = 5 ^ k * 2 ^ k := (Nat.mul_pow 5 2 k).trans rfl
  have hodd : 5 ^ k ≤ 2 ^ 53 := (Nat.pow_le_pow_right (by decide) hk).trans (by decide)
  have hgrid : Grid (10 ^ k : Nat) := by
    rw [hsplit, ← scaled_natCast, scaled_shift]
    exact grid_scaled _ _ hodd (by omega)
  have hle : ((10 ^ k : Nat) : ℚ) ≤ scaled 1 1023 := by
    rw [hsplit, ← scaled_natCast, scaled_shift]
    exact scaled_le_largest _ _ hodd (by omega)
  have hvalue := eq_of_rounds _ _ hgrid (amount_ofNat (10 ^ k) hle).2
  rw [Nat.cast_pow] at hvalue
  exact hvalue

/-- A number that is short enough is rounded only once: no double lies between it and what
it is converted to. -/
theorem exists_scaled_short (n : Nat) (scale : Int) (hn : n ≤ 2 ^ 53)
    (hscale : scale.natAbs ≤ 22) :
    ∃ y, Scaled n.toUInt64.toFloat scale y ∧ Rounds (n * 10 ^ scale) (amount y) := by
  rcases amount_toFloat n.toUInt64 with ⟨hx, hrounds⟩
  have hword : n.toUInt64.toNat = n := Nat.mod_eq_of_lt (by omega)
  rw [hword] at hrounds
  have hvalue := eq_of_rounds_natCast n _ hn hrounds
  generalize hk : scale.natAbs = k at hscale
  have hten := amount_tenTo_eq k hscale
  rcases amount_tenTo k (by omega) with ⟨hpower, hone⟩
  have hlarge : (n : ℚ) * 10 ^ k ≤ scaled 1 1023 := by
    have hle : n * 10 ^ k ≤ 2 ^ 1023 :=
      (Nat.mul_le_mul hn (Nat.pow_le_pow_right (by decide) hscale)).trans (by decide +kernel)
    exact_mod_cast natCast_le_scaled (n * 10 ^ k) 1023 hle
  -- Both factors are exact, so what is rounded is the number itself.
  by_cases hpos : 0 ≤ scale
  · have hproduct := amount_mul _ _ hx hpower (by rw [hvalue, hten]; exact hlarge)
    have hcast : scale = k := by omega
    rw [hvalue, hten] at hproduct
    rw [hcast, zpow_natCast]
    exact ⟨_, .multiplied _ k (by omega) hproduct.1.1, hproduct.2⟩
  · have hsmall : amount n.toUInt64.toFloat / amount (tenTo k) ≤ scaled 1 1023 := by
      rw [hvalue]
      exact (div_le_self (Nat.cast_nonneg n) hone).trans (natCast_le_largest n hn)
    have hquotient := amount_div _ _ hx hpower (lt_of_lt_of_le one_pos hone) hsmall
    have hcast : scale = -(k : Int) := by omega
    rw [hvalue, hten] at hquotient
    rw [hcast, zpow_neg, zpow_natCast, ← div_eq_mul_inv]
    exact ⟨_, .divided _ k (by omega) (by omega), hquotient.2⟩

end Powers

section Literals

variable (l : Literal)

/-- The double of a number is made of its significand and its power of ten. -/
theorem double?_eq_some_iff (y : Float) :
    double? l.negative l.whole l.fraction ((l.exponent.map Exponent.value).getD 0) = some y ↔
      ∃ n scale x, l.Significand n scale ∧ Scaled n.toUInt64.toFloat scale x ∧
        (if l.negative then -x else x) = y := by
  have hzero : Numeral.decimal [] = 0 := rfl
  -- Where the digits are divided, both sides take the same parts.
  have hparts : ∀ kept dropped counted ignored, l.whole = kept ++ dropped →
      Gathered [] kept dropped → l.fraction = counted ++ ignored →
      Gathered kept counted ignored →
      double? l.negative l.whole l.fraction ((l.exponent.map Exponent.value).getD 0)
        = (scaled? (Numeral.decimal (kept ++ counted)).toUInt64.toFloat
            ((l.exponent.map Exponent.value).getD 0 + dropped.length - counted.length)).map
          fun x => if l.negative then -x else x := by
    intro kept dropped counted ignored hwhole hkept hfraction hcounted
    have hfirst := significand_of_gathered [] kept dropped hkept
    have hsecond := significand_of_gathered kept counted ignored hcounted
    rw [hzero, ← hwhole, List.nil_append] at hfirst
    rw [← hfraction] at hsecond
    have hlength : l.fraction.length - ignored.length = counted.length := by
      rw [hfraction, List.length_append, Nat.add_sub_cancel]
    simp only [double?, hfirst, hsecond, hlength]
  constructor
  · intro h
    rcases exists_gathered [] l.whole (by rw [hzero]; decide)
      with ⟨kept, dropped, hwhole, hkept⟩
    rcases exists_gathered kept l.fraction hkept.fits
      with ⟨counted, ignored, hfraction, hcounted⟩
    rw [hparts kept dropped counted ignored hwhole hkept hfraction hcounted,
      Option.map_eq_some_iff] at h
    rcases h with ⟨x, hx, hy⟩
    exact ⟨_, _, x, ⟨kept, dropped, counted, ignored, hwhole, hkept, hfraction, hcounted, rfl, rfl⟩,
      (scaled?_eq_some_iff _ _ _).mp hx, hy⟩
  · rintro ⟨n, scale, x, ⟨kept, dropped, counted, ignored, hwhole, hkept, hfraction, hcounted,
      rfl, rfl⟩, hx, hy⟩
    rw [hparts kept dropped counted ignored hwhole hkept hfraction hcounted,
      Option.map_eq_some_iff]
    exact ⟨x, (scaled?_eq_some_iff _ _ _).mpr hx, hy⟩

/-- A double that a literal stands for is finite. -/
theorem isFinite_of_means (y : Float) (h : l.Means (.float y)) : isFinite y = true := by
  generalize hnumber : Number.float y = number at h
  cases h with
  | exact i hi => exact absurd hnumber (by simp only [reduceCtorEq, not_false_eq_true])
  | rounded n scale x _ _ hx =>
      rw [Number.float.inj hnumber]
      have hfinite := isFinite_of_scaled _ x scale (small_toFloat n.toUInt64) hx
      cases l.negative with
      | false => exact hfinite
      | true => exact isFinite_neg x hfinite

end Literals

end Reader

end Json

end PageSweep
