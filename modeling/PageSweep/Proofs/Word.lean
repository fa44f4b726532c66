import Mathlib.Algebra.Ring.Nat
import PageSweep.Word

/-!
# Sums of Machine Words

A sum of words is there exactly if the sum of the numbers is a word, and then it is
that number. The same holds of the sum of a list: words only grow when they are added,
so if the whole sum is a word, every sum on the way to it is one.

## Theorems

* `add?_eq_some_iff`, `add?_eq_none_iff`: When two words have a sum.
* `sum?_eq_some_iff`: When a list of words has a sum.
-/

namespace PageSweep

namespace Word

theorem add?_eq_some_iff (a b c : UInt64) :
    add? a b = some c ↔ c.toNat = a.toNat + b.toNat := by
  have hc := c.toNat_lt
  by_cases h : a.toNat + b.toNat < 0x10000000000000000
  · rw [add?, if_pos h, Option.some.injEq, ← UInt64.toNat_inj, UInt64.toNat_add,
      Nat.mod_eq_of_lt h]
    exact eq_comm
  · rw [add?, if_neg h]
    exact iff_of_false (by simp only [reduceCtorEq, not_false_eq_true]) (by omega)

theorem add?_eq_none_iff (a b : UInt64) : add? a b = none ↔ 2 ^ 64 ≤ a.toNat + b.toNat := by
  by_cases h : a.toNat + b.toNat < 0x10000000000000000
  · rw [add?, if_pos h]
    exact iff_of_false (by simp only [reduceCtorEq, not_false_eq_true]) (by omega)
  · rw [add?, if_neg h]
    exact iff_of_true rfl (by omega)

theorem foldlM_add?_eq_some_iff (words : List UInt64) (first total : UInt64) :
    words.foldlM add? first = some total
      ↔ total.toNat = first.toNat + (words.map UInt64.toNat).sum := by
  induction words generalizing first with
  | nil =>
      rw [List.foldlM_nil, List.map_nil, List.sum_nil, Nat.add_zero]
      exact (Option.some.injEq first total).to_iff.trans
        (UInt64.toNat_inj.symm.trans eq_comm)
  | cons word rest ih =>
      rw [List.foldlM_cons, List.map_cons, List.sum_cons]
      cases hsum : add? first word with
      | some sum =>
          have hword := (add?_eq_some_iff first word sum).mp hsum
          exact (ih sum).trans (by omega)
      | none =>
          -- The sum on the way is too large already, and it does not get smaller.
          have hlarge := (add?_eq_none_iff first word).mp hsum
          have htotal := total.toNat_lt
          exact iff_of_false (by simp only [Option.bind_eq_bind, Option.bind_none, reduceCtorEq,
            not_false_eq_true]) (by omega)

/-- A list of words has a sum exactly if the sum of the numbers is a word. -/
theorem sum?_eq_some_iff (words : List UInt64) (total : UInt64) :
    sum? words = some total ↔ total.toNat = (words.map UInt64.toNat).sum := by
  rw [sum?, foldlM_add?_eq_some_iff, UInt64.toNat_zero, Nat.zero_add]

end Word

end PageSweep
