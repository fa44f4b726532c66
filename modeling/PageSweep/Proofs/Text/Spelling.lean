import PageSweep.Proofs.Text.Numeral

/-!
# Which Texts Are Numerals

A numeral is an optional plus sign and then digits, at least one, in either case. Any
number of zeros may come first. So a number has many spellings, and the one that is
written for it is only one of them. Reading takes exactly the spellings of the numbers
below the bound.

The reader looks at the bound after every digit and not only at the end. That makes no
difference, because a digit more never makes a number smaller: `le_valueFrom` is what
lets the check at the end stand for all of them.

## Main definitions

* `valueFrom`: A number continued by digits.
* `Spells`: The text of a number.

## Theorems

* `spells_plus_iff`, `spells_cons_iff`: Spellings with a sign and without one.
* `extend_eq_ok_iff`: Reading on through digits.
* `read_eq_ok_iff`: Reading a numeral.
-/

namespace PageSweep

namespace Numeral

/-- The number that begins as `n` and goes on with digits of these values. -/
def valueFrom (base n : Nat) (values : List Nat) : Nat :=
  values.foldl (fun n d => n * base + d) n

/-- Whether characters are digits of these values. -/
def AreDigits (base : Nat) (digits : List Char) (values : List Nat) : Prop :=
  digits.map digit? = values.map some ∧ ∀ d ∈ values, d < base

/-- Whether a text is a spelling of a number: a sign or none, and digits, the greatest
first. -/
def Spells (base : Nat) (text : List Char) (n : Nat) : Prop :=
  ∃ (sign digits : List Char) (values : List Nat), text = sign ++ digits ∧
    (sign = [] ∨ sign = ['+']) ∧ digits ≠ [] ∧ AreDigits base digits values ∧
    n = valueFrom base 0 values

theorem le_valueFrom (base n : Nat) (hbase : 0 < base) (values : List Nat) :
    n ≤ valueFrom base n values := by
  induction values generalizing n with
  | nil => exact Nat.le_refl n
  | cons d rest ih =>
      have hstep : n ≤ n * base + d := Nat.le_add_right_of_le (Nat.le_mul_of_pos_right n hbase)
      exact Nat.le_trans hstep (ih (n * base + d))

theorem areDigits_cons_iff (base : Nat) (c : Char) (digits : List Char) (values : List Nat) :
    AreDigits base (c :: digits) values ↔
      ∃ d rest, values = d :: rest ∧ digit? c = some d ∧ d < base ∧
        AreDigits base digits rest := by
  constructor
  · rintro ⟨hmap, hlt⟩
    cases values with
    | nil => exact absurd hmap (by simp only [List.map_cons, List.map_nil, reduceCtorEq,
        not_false_eq_true])
    | cons d rest =>
        simp only [List.map_cons, List.cons.injEq] at hmap
        exact ⟨d, rest, rfl, hmap.1, hlt d List.mem_cons_self, hmap.2,
          fun e he => hlt e (List.mem_cons_of_mem _ he)⟩
  · rintro ⟨d, rest, rfl, hd, hlt, hmap, hrest⟩
    refine ⟨by rw [List.map_cons, List.map_cons, hd, hmap], fun e he => ?_⟩
    rcases List.mem_cons.mp he with rfl | he
    · exact hlt
    · exact hrest e he

/-- A sign is no digit. -/
theorem not_areDigits_plus (base : Nat) (digits : List Char) (values : List Nat) :
    ¬ AreDigits base ('+' :: digits) values := by
  intro h
  rcases (areDigits_cons_iff base '+' digits values).mp h with ⟨d, -, -, hd, -⟩
  have hnone : digit? '+' = none := by decide
  rw [hnone] at hd
  exact absurd hd (by simp only [reduceCtorEq, not_false_eq_true])

/-- Spellings with a sign. -/
theorem spells_plus_iff (base : Nat) (digits : List Char) (n : Nat) :
    Spells base ('+' :: digits) n ↔
      digits ≠ [] ∧ ∃ values, AreDigits base digits values ∧ n = valueFrom base 0 values := by
  constructor
  · rintro ⟨sign, rest, values, htext, hsign, hne, hdigits, hn⟩
    rcases hsign with rfl | rfl
    · rw [List.nil_append] at htext
      rw [← htext] at hdigits
      exact absurd hdigits (not_areDigits_plus base digits values)
    · have hrest : digits = rest := (List.cons.inj htext).2
      rw [hrest]
      exact ⟨hne, values, hdigits, hn⟩
  · rintro ⟨hne, values, hdigits, hn⟩
    exact ⟨['+'], digits, values, rfl, Or.inr rfl, hne, hdigits, hn⟩

/-- Spellings without a sign. -/
theorem spells_cons_iff (base : Nat) (c : Char) (rest : List Char) (n : Nat) (hc : c ≠ '+') :
    Spells base (c :: rest) n ↔
      ∃ values, AreDigits base (c :: rest) values ∧ n = valueFrom base 0 values := by
  constructor
  · rintro ⟨sign, digits, values, htext, hsign, -, hdigits, hn⟩
    rcases hsign with rfl | rfl
    · rw [List.nil_append] at htext
      rw [htext]
      exact ⟨values, hdigits, hn⟩
    · exact absurd (List.cons.inj htext).1 hc
  · rintro ⟨values, hdigits, hn⟩
    exact ⟨[], c :: rest, values, rfl, Or.inl rfl, List.cons_ne_nil c rest, hdigits, hn⟩

theorem not_spells_nil (base n : Nat) : ¬ Spells base [] n := by
  rintro ⟨sign, digits, values, htext, -, hne, -⟩
  exact hne (List.append_eq_nil_iff.mp htext.symm).2

section Read

variable (base bound : Nat) (hbase : 0 < base)
include hbase

/-- Reading goes on through digits as long as the whole number is below the bound. -/
theorem extend_eq_ok_iff (n m : Nat) (digits : List Char) (hn : n < bound) :
    extend base bound n digits = .ok m ↔
      ∃ values, AreDigits base digits values ∧ m = valueFrom base n values ∧ m < bound := by
  induction digits generalizing n with
  | nil =>
      rw [extend, Except.ok.injEq]
      constructor
      · rintro rfl
        exact ⟨[], ⟨rfl, fun d hd => absurd hd List.not_mem_nil⟩, rfl, hn⟩
      · rintro ⟨values, hdigits, rfl, -⟩
        have hnil : values = [] := List.map_eq_nil_iff.mp hdigits.1.symm
        rw [hnil]
        rfl
  | cons c rest ih =>
      rw [extend]
      simp only [areDigits_cons_iff]
      cases hd : digit? c with
      | none =>
          refine iff_of_false (by simp only [reduceCtorEq, not_false_eq_true]) ?_
          rintro ⟨_, ⟨d, _, _, hsome, _⟩, _⟩
          exact absurd hsome (by simp only [reduceCtorEq, not_false_eq_true])
      | some d =>
          simp only []
          by_cases hdigit : base ≤ d
          · -- A hexadecimal digit that the base does not have.
            rw [if_pos hdigit]
            refine iff_of_false (by simp only [reduceCtorEq, not_false_eq_true]) ?_
            rintro ⟨_, ⟨e, _, _, hsome, hlt, _⟩, _⟩
            rw [Option.some.inj hsome] at hdigit
            omega
          rw [if_neg hdigit]
          by_cases hlt : n * base + d < bound
          · rw [if_pos hlt, ih (n * base + d) hlt]
            constructor
            · rintro ⟨values, hvalues, hm, hbound⟩
              exact ⟨d :: values, ⟨d, values, rfl, rfl, by omega, hvalues⟩, hm, hbound⟩
            · rintro ⟨_, ⟨e, values, rfl, hsome, -, hvalues⟩, hm, hbound⟩
              rw [← Option.some.inj hsome] at hm
              exact ⟨values, hvalues, hm, hbound⟩
          · -- The number has left the bound, and the digits to come do not bring it back.
            rw [if_neg hlt]
            refine iff_of_false (by simp only [reduceCtorEq, not_false_eq_true]) ?_
            rintro ⟨_, ⟨e, values, rfl, hsome, -, -⟩, hm, hbound⟩
            have hle : n * base + d ≤ m := by
              rw [hm, Option.some.inj hsome]
              exact le_valueFrom base _ hbase values
            omega

/-- Reading a numeral takes the spellings of the numbers below the bound, and no other
text. -/
theorem read_eq_ok_iff (hbound : 0 < bound) (text : List Char) (n : Nat) :
    read base bound text = .ok n ↔ Spells base text n ∧ n < bound := by
  have hextend : ∀ digits : List Char, extend base bound 0 digits = .ok n ↔
      (∃ values, AreDigits base digits values ∧ n = valueFrom base 0 values) ∧ n < bound := by
    intro digits
    rw [extend_eq_ok_iff base bound hbase 0 n digits hbound]
    simp only [exists_and_right, ← and_assoc]
  cases text with
  | nil =>
      rw [read]
      exact iff_of_false (by simp only [reduceCtorEq, not_false_eq_true])
        fun h => not_spells_nil base n h.1
  | cons c rest =>
      by_cases hc : c = '+'
      · subst hc
        rw [spells_plus_iff]
        -- The reader has a case of its own for a sign with nothing after it.
        cases rest with
        | nil =>
            rw [read]
            exact iff_of_false (by simp only [reduceCtorEq, not_false_eq_true])
              fun h => h.1.1 rfl
        | cons d more =>
            rw [read, hextend]
            · simp only [ne_eq, reduceCtorEq, not_false_eq_true, true_and]
            · exact List.cons_ne_nil d more
      · rw [read_eq_extend base bound c rest hc, spells_cons_iff base c rest n hc, hextend]

end Read

end Numeral

end PageSweep
