import Mathlib.Algebra.Group.Nat.Defs
import PageSweep.Decimal.Fixed
import PageSweep.Text.Numeral
import PageSweep.Time.Instant

/-!
# Numbers of a Fixed Width

Dates and times are written in fields. A field has a fixed number of digits, zeros in
front included, so the fields of a text can be found by their places alone and the text
needs no marks to be taken apart. It also makes the order of the texts that of the
numbers: of two fields of one width, the smaller number has the smaller digit at the
first place where they differ. Neither depends on the base, as long as the digits of the
base are ordered as their values are.

## Main definitions

* `Numeral.places`: The last digits of a number in a base.
* `Numeral.fixed`: The last decimal digits of a number.

## Theorems

* `places_eq_toDigits`: Padding a number writes a field, as long as the number fits.
* `places_lt`: The order of fields is that of numbers, whatever follows them.
* `padded_eq_fixed`, `fixed_lt`: Both for decimal fields.
* `field?_fixed`: A decimal field reads back.
-/

namespace PageSweep

namespace Numeral

section Places

/-- The last `width` digits of a number in a base. -/
def places (base : Nat) : Nat → Nat → List Char
  | 0, _ => []
  | width + 1, n => places base width (n / base) ++ [Nat.digitChar (n % base)]

theorem length_places (base width n : Nat) : (places base width n).length = width := by
  induction width generalizing n with
  | zero => rfl
  | succ width ih =>
      rw [places, List.length_append, ih, List.length_singleton]

theorem places_zero (base width : Nat) : places base width 0 = List.replicate width '0' := by
  induction width with
  | zero => rfl
  | succ width ih =>
      rw [places, Nat.zero_div, ih, Nat.zero_mod, List.replicate_succ']
      rfl

theorem digitChar_lt : ∀ e < 16, ∀ d < e, Nat.digitChar d < Nat.digitChar e := by
  decide

variable (base : Nat) (hlow : 1 < base)
include hlow

/-- A number that fits has its digits at the end of the field, and zeros before. -/
theorem places_eq_toDigits (width n : Nat) (h : n < base ^ (width + 1)) :
    places base (width + 1) n
      = List.replicate (width + 1 - (Nat.toDigits base n).length) '0' ++ Nat.toDigits base n := by
  induction width generalizing n with
  | zero =>
      have hdigit : n < base := by rwa [Nat.zero_add, Nat.pow_one] at h
      rw [places, places, Nat.toDigits_of_lt_base hdigit, Nat.mod_eq_of_lt hdigit]
      rfl
  | succ width ih =>
      rw [places]
      by_cases hdigit : n < base
      · rw [Nat.toDigits_of_lt_base hdigit, Nat.mod_eq_of_lt hdigit, Nat.div_eq_of_lt hdigit,
          places_zero]
        rfl
      · have hshort : n / base < base ^ (width + 1) := by
          rw [Nat.pow_succ] at h
          exact Nat.div_lt_of_lt_mul (by rwa [Nat.mul_comm])
        rw [Nat.toDigits_eq_if hlow (n := n), if_neg hdigit, ih (n / base) hshort,
          List.length_append, List.length_singleton, Nat.add_sub_add_right, List.append_assoc]

/-- The numbers differ in the digits before the last one, or only in the last one. -/
theorem places_lt (hbase : base ≤ 16) (width m n : Nat) (hlt : m < n) (hn : n < base ^ width)
    (front back : List Char) : places base width m ++ front < places base width n ++ back := by
  induction width generalizing m n front back with
  | zero =>
      rw [Nat.pow_zero] at hn
      omega
  | succ width ih =>
      have hpos : 0 < base := Nat.lt_of_succ_lt hlow
      rw [places, places, List.append_assoc, List.append_assoc]
      by_cases hfront : m / base < n / base
      · apply ih _ _ hfront
        rw [Nat.pow_succ] at hn
        exact Nat.div_lt_of_lt_mul (by rwa [Nat.mul_comm])
      · have hsame : m / base = n / base :=
          Nat.le_antisymm (Nat.div_le_div_right (Nat.le_of_lt hlt)) (Nat.le_of_not_lt hfront)
        have hm := Nat.div_add_mod m base
        have hrest : m % base < n % base := by
          have hn := Nat.div_add_mod n base
          rw [hsame] at hm
          omega
        rw [hsame]
        apply List.append_left_lt
        apply List.cons_lt_cons_iff.mpr
        exact Or.inl (digitChar_lt (n % base)
          (Nat.lt_of_lt_of_le (Nat.mod_lt n hpos) hbase) (m % base) hrest)

end Places

/-- The last `width` decimal digits of a number. -/
def fixed : Nat → Nat → List Char
  | 0, _ => []
  | width + 1, n => fixed width (n / 10) ++ [Nat.digitChar (n % 10)]

theorem fixed_eq_places (width n : Nat) : fixed width n = places 10 width n := by
  induction width generalizing n with
  | zero => rfl
  | succ width ih =>
      rw [fixed, places, ih]

@[simp]
theorem length_fixed (width n : Nat) : (fixed width n).length = width := by
  rw [fixed_eq_places, length_places]

theorem padded_eq_fixed (width n : Nat) (h : n < 10 ^ (width + 1)) :
    (Decimal.padded (width + 1) n).toList = fixed (width + 1) n := by
  have hdigits : (toString n).toList = Nat.toDigits 10 n := Nat.toList_repr
  have hlength : (toString n).length = (Nat.toDigits 10 n).length := by
    rw [← hdigits, String.length_toList]
  rw [fixed_eq_places, places_eq_toDigits 10 (by decide) width n h, Decimal.padded,
    String.toList_append, String.toList_ofList, hdigits, hlength]

section Reading

theorem isDigit_digitChar : ∀ d < 10, (Nat.digitChar d).isDigit = true := by
  decide

theorem toNat_digitChar : ∀ d < 10, (Nat.digitChar d).toNat - '0'.toNat = d := by
  decide

theorem all_isDigit_fixed (width n : Nat) : (fixed width n).all Char.isDigit = true := by
  induction width generalizing n with
  | zero => rfl
  | succ width ih =>
      have hlast := isDigit_digitChar (n % 10) (Nat.mod_lt n (by decide))
      rw [fixed, List.all_append, ih, Bool.true_and, List.all_cons, hlast]
      rfl

theorem decimal_fixed (width n : Nat) (h : n < 10 ^ width) : decimal (fixed width n) = n := by
  induction width generalizing n with
  | zero =>
      have hzero : n = 0 := by omega
      rw [hzero]
      rfl
  | succ width ih =>
      have hfront : decimal (fixed width (n / 10)) = n / 10 := by
        apply ih
        rw [Nat.pow_succ] at h
        omega
      have hlast := toNat_digitChar (n % 10) (Nat.mod_lt n (by decide))
      rw [decimal] at hfront
      rw [fixed, decimal, List.foldl_append, hfront, List.foldl_cons, List.foldl_nil, hlast]
      omega

theorem field?_fixed (width n : Nat) (h : n < 10 ^ width) :
    Instant.field? (fixed width n) = some n := by
  rw [Instant.field?, if_pos (all_isDigit_fixed width n), decimal_fixed width n h]

end Reading

theorem fixed_lt (width m n : Nat) (hlt : m < n) (hn : n < 10 ^ width) (front back : List Char) :
    fixed width m ++ front < fixed width n ++ back := by
  rw [fixed_eq_places, fixed_eq_places]
  exact places_lt 10 (by decide) (by decide) width m n hlt hn front back

end Numeral

end PageSweep
