import Mathlib.Tactic.SplitIfs
import PageSweep.Proofs.Text.Utf8

/-!
# The Order of Names Is That of Their Bytes

Text is compared character by character. Its UTF-8 bytes, compared one by one, come out
the same way: a greater character begins with a greater byte or, if both begin alike,
has a greater byte later on, and no character is the beginning of another one.

## Theorems

* `encodeChar_lt`: Two characters, and whatever follows them.
* `toUTF8_lt`: Two texts.
-/

namespace PageSweep

namespace Utf8

theorem ofNat_lt_iff (m n : Nat) (hm : m < 256) (hn : n < 256) :
    UInt8.ofNat m < UInt8.ofNat n ↔ m < n := by
  rw [UInt8.lt_iff_toNat_lt, UInt8.toNat_ofNat', UInt8.toNat_ofNat']
  omega

theorem ofNat_eq_iff (m n : Nat) (hm : m < 256) (hn : n < 256) :
    UInt8.ofNat m = UInt8.ofNat n ↔ m = n := by
  rw [← UInt8.toNat_inj, UInt8.toNat_ofNat', UInt8.toNat_ofNat']
  omega

theorem encodeChar_lt (c d : Char) (hlt : c < d) (front back : List UInt8) :
    String.utf8EncodeChar c ++ front < String.utf8EncodeChar d ++ back := by
  have hval : c.val.toNat < d.val.toNat := hlt
  have hmax : d.val.toNat < 0x110000 := by
    have hvalid := d.valid
    rcases hvalid with h | h
    · exact Nat.lt_trans h (by omega)
    · exact h.2
  unfold String.utf8EncodeChar
  generalize c.val.toNat = m at hval ⊢
  generalize d.val.toNat = n at hval hmax ⊢
  have hsecond : ∀ k, k / 4096 = k / 64 / 64 := fun k => (Nat.div_div_eq_div_mul k 64 64).symm
  have hthird : ∀ k, k / 262144 = k / 64 / 64 / 64 := fun k => by
    rw [← hsecond, Nat.div_div_eq_div_mul]
  -- The cases are the lengths of the two. The first byte tells different lengths
  -- apart; with the same length, the bytes are digits, the greatest one first.
  simp only [hsecond, hthird]
  split_ifs
  all_goals simp (disch := omega) only [List.cons_append, List.nil_append,
    List.cons_lt_cons_iff, ofNat_lt_iff, ofNat_eq_iff]
  all_goals omega

theorem flatMap_lt (front back : List Char) (hlt : front < back) :
    front.flatMap String.utf8EncodeChar < back.flatMap String.utf8EncodeChar := by
  induction front generalizing back with
  | nil =>
      cases back with
      | nil => exact absurd hlt (List.lt_irrefl _)
      | cons d rest =>
          rw [List.flatMap_nil, List.flatMap_cons]
          cases hbytes : String.utf8EncodeChar d with
          | nil => exact absurd hbytes String.utf8EncodeChar_ne_nil
          | cons byte bytes => exact List.nil_lt_cons byte _
  | cons c others ih =>
      cases back with
      | nil => exact absurd hlt (List.not_lt_nil _)
      | cons d rest =>
          rw [List.flatMap_cons, List.flatMap_cons]
          rcases List.cons_lt_cons_iff.mp hlt with h | ⟨rfl, h⟩
          · exact encodeChar_lt c d h _ _
          · exact List.append_left_lt (ih rest h)

theorem toUTF8_lt (a b : String) (hlt : a < b) : a.toUTF8.data.toList < b.toUTF8.data.toList := by
  rw [← toArray_flatMap a, ← toArray_flatMap b]
  exact flatMap_lt a.toList b.toList (String.lt_iff.mp hlt)

end Utf8

end PageSweep
