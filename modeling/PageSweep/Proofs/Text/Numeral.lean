import PageSweep.Text.Numeral

/-!
# Reading Written Numerals

Digits that are written for a number read back to it. `Numeral.extend` carries the
value of the digits so far and refuses a number as soon as it leaves the bound, so
the induction has to go along with the digits from the left, while `Nat.toDigits`
is described by its last digit. `extend_append` is what lets the two meet.

## Theorems

* `digit?_digitChar`, `digit?_lower`, `digit?_upper`: The value of a written digit.
* `extend_append`: Reading a run of digits and going on.
* `extend_toDigits`: Written digits read back.
* `read_padded`: A numeral reads back, with any number of zeros in front.
-/

namespace PageSweep

namespace Numeral

theorem digit?_digitChar : ∀ n < 16, digit? (Nat.digitChar n) = some n := by
  decide

theorem digit?_lower : ∀ n < 16, digit? (lower n) = some n := by
  decide

theorem digit?_upper : ∀ n < 16, digit? (upper n) = some n := by
  decide

theorem digitChar_ne_plus : ∀ n < 16, Nat.digitChar n ≠ '+' := by
  decide

theorem extend_append (base bound n m : Nat) (front back : List Char)
    (h : extend base bound n front = .ok m) :
    extend base bound n (front ++ back) = extend base bound m back := by
  induction front generalizing n with
  | nil =>
      simp only [extend, Except.ok.injEq] at h
      rw [List.nil_append, h]
  | cons c rest ih =>
      simp only [extend, List.cons_append] at h ⊢
      -- The front was read, so no digit of it was refused: neither as a
      -- character, nor for the base, nor for the bound.
      cases hd : digit? c with
      | none => rw [hd] at h; exact absurd h (by simp only [reduceCtorEq, not_false_eq_true])
      | some d =>
          rw [hd] at h
          simp only [] at h ⊢
          by_cases hbase : base ≤ d
          · rw [if_pos hbase] at h
            exact absurd h (by simp only [reduceCtorEq, not_false_eq_true])
          · rw [if_neg hbase] at h ⊢
            by_cases hlt : n * base + d < bound
            · rw [if_pos hlt] at h ⊢
              exact ih _ h
            · rw [if_neg hlt] at h
              exact absurd h (by simp only [reduceCtorEq, not_false_eq_true])

/-- One more digit, when the number stays below the bound. -/
theorem extend_digit (base bound n d : Nat) (hbase : base ≤ 16) (hd : d < base)
    (hlt : n * base + d < bound) :
    extend base bound n [Nat.digitChar d] = .ok (n * base + d) := by
  simp only [extend, digit?_digitChar d (by omega), if_neg (by omega : ¬ base ≤ d), if_pos hlt]

theorem extend_toDigits (base bound : Nat) (hlow : 1 < base) (hbase : base ≤ 16) (n : Nat)
    (hlt : n < bound) : extend base bound 0 (Nat.toDigits base n) = .ok n := by
  induction n using Nat.strongRecOn with
  | ind n ih =>
      rw [Nat.toDigits_eq_if hlow]
      by_cases hn : n < base
      · rw [if_pos hn]
        have h := extend_digit base bound 0 n hbase hn (by omega)
        rw [h, Nat.zero_mul, Nat.zero_add]
      · rw [if_neg hn]
        -- The digits are those of the quotient and one more for the remainder.
        have hdiv : n / base < n := Nat.div_lt_self (by omega) hlow
        have hdm : n / base * base + n % base = n := Nat.div_add_mod' n base
        rw [extend_append base bound 0 (n / base) _ _ (ih _ hdiv (by omega)),
          extend_digit base bound _ _ hbase (Nat.mod_lt n (by omega)) (by omega), hdm]

/-- Zeros in front do not count. -/
theorem extend_zeros (base bound : Nat) (hlow : 0 < base) (hbound : 0 < bound) (k : Nat)
    (digits : List Char) :
    extend base bound 0 (List.replicate k '0' ++ digits) = extend base bound 0 digits := by
  induction k with
  | zero => rfl
  | succ k ih =>
      have hzero : digit? '0' = some 0 := by decide
      rw [List.replicate_succ, List.cons_append]
      simp only [extend, hzero, Nat.zero_mul, Nat.zero_add, if_neg (by omega : ¬ base ≤ 0),
        if_pos hbound]
      exact ih

/-- A numeral that does not begin with a sign is read digit by digit. -/
theorem read_eq_extend (base bound : Nat) (c : Char) (rest : List Char) (hc : c ≠ '+') :
    read base bound (c :: rest) = extend base bound 0 (c :: rest) := by
  unfold read
  split
  · rename_i h; exact absurd h (List.cons_ne_nil _ _)
  · rename_i h; exact absurd (List.cons.inj h).1 hc
  · rename_i h; exact absurd (List.cons.inj h).1 hc
  · rfl

/-- No written numeral begins with a sign. -/
theorem head_toDigits_ne_plus (base : Nat) (hlow : 1 < base) (hbase : base ≤ 16) (n : Nat) :
    ∃ c rest, Nat.toDigits base n = c :: rest ∧ c ≠ '+' := by
  induction n using Nat.strongRecOn with
  | ind n ih =>
      rw [Nat.toDigits_eq_if hlow]
      by_cases hn : n < base
      · rw [if_pos hn]
        exact ⟨_, _, rfl, digitChar_ne_plus n (by omega)⟩
      · rw [if_neg hn]
        rcases ih (n / base) (Nat.div_lt_self (by omega) hlow) with ⟨c, rest, heq, hc⟩
        exact ⟨c, rest ++ [Nat.digitChar (n % base)], by rw [heq, List.cons_append], hc⟩

/-- A numeral reads back, with any number of zeros in front. -/
theorem read_padded (base bound : Nat) (hlow : 1 < base) (hbase : base ≤ 16) (k n : Nat)
    (hlt : n < bound) :
    read base bound (List.replicate k '0' ++ Nat.toDigits base n) = .ok n := by
  have hvalue : extend base bound 0 (List.replicate k '0' ++ Nat.toDigits base n) = .ok n := by
    rw [extend_zeros base bound (by omega) (by omega),
      extend_toDigits base bound hlow hbase n hlt]
  -- A sign would be skipped, so what comes first has to be known: a zero, or
  -- a digit of the number.
  cases k with
  | zero =>
      rcases head_toDigits_ne_plus base hlow hbase n with ⟨c, rest, heq, hc⟩
      rw [heq] at hvalue ⊢
      rw [List.replicate_zero, List.nil_append] at hvalue ⊢
      rw [read_eq_extend base bound c rest hc, hvalue]
  | succ k =>
      rw [List.replicate_succ, List.cons_append] at hvalue ⊢
      rw [read_eq_extend base bound '0' _ (by decide), hvalue]

end Numeral

end PageSweep
