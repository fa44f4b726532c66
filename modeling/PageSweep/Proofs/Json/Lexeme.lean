import Mathlib.Data.List.TakeWhile
import PageSweep.Proofs.Json.Conversion
import PageSweep.Proofs.Json.Token

/-!
# Strings and Numbers of the Grammar

The reader takes a string or a number exactly when the grammar has one there, and then
both give it the same value. A string needs nothing to be known about the text after it.
A number is read as far as it goes, so what follows must not go on with it.

The reader collects the characters of a string one by one, so the induction is over its
own turns, and each turn takes one spelling of one character. In the other direction it
is over the list of spellings.

## Theorems

* `hexUnit?_eq_some_iff`, `escaped?_eq_some_iff`: The escapes.
* `string_sound`, `string_complete`: A string.
* `assemble_eq_some_iff`: The number of a literal.
* `number_sound`, `number_complete`: A number.
-/

namespace PageSweep

namespace Json

namespace Reader

open Grammar

theorem hexUnit?_eq_some_iff (a b c d : Char) (n : Nat) :
    hexUnit? a b c d = some n ↔ Hex a b c d n := by
  simp only [hexUnit?, Option.bind_eq_bind, Option.bind_eq_some_iff, Option.pure_def,
    Option.some.injEq, Hex]
  constructor
  · rintro ⟨i, hi, j, hj, k, hk, l, hl, rfl⟩
    exact ⟨i, j, k, l, hi, hj, hk, hl, rfl⟩
  · rintro ⟨i, j, k, l, hi, hj, hk, hl, rfl⟩
    exact ⟨i, hi, j, hj, k, hk, l, hl, rfl⟩

theorem digit?_lt (c : Char) (n : Nat) (h : Numeral.digit? c = some n) : n < 16 := by
  have hc : c.toNat = c.val.toNat := rfl
  have hdigits : '0'.toNat = 48 ∧ '0'.val.toNat = 48 ∧ '9'.val.toNat = 57 := ⟨rfl, rfl, rfl⟩
  have hsmall : 'a'.toNat = 97 ∧ 'a'.val.toNat = 97 ∧ 'f'.val.toNat = 102 := ⟨rfl, rfl, rfl⟩
  have hlarge : 'A'.toNat = 65 ∧ 'A'.val.toNat = 65 ∧ 'F'.val.toNat = 70 := ⟨rfl, rfl, rfl⟩
  simp only [Numeral.digit?, Char.le_def, UInt32.le_iff_toNat_le] at h
  split at h
  · rw [Option.some.injEq] at h
    omega
  split at h
  · rw [Option.some.injEq] at h
    omega
  split at h
  · rw [Option.some.injEq] at h
    omega
  · exact absurd h (by simp only [reduceCtorEq, not_false_eq_true])

theorem hex_lt (a b c d : Char) (n : Nat) (h : Hex a b c d n) : n < 0x10000 := by
  rcases h with ⟨i, j, k, l, hi, hj, hk, hl, rfl⟩
  have hi := digit?_lt a i hi
  have hj := digit?_lt b j hj
  have hk := digit?_lt c k hk
  have hl := digit?_lt d l hl
  omega

theorem escaped?_eq_some_iff (c x : Char) : escaped? c = some x ↔ (c, x) ∈ letters := by
  constructor
  · intro h
    unfold escaped? at h
    split at h
    · rename_i hself
      rw [← Option.some.inj h]
      rcases hself with rfl | rfl | rfl
      all_goals decide
    repeat
      split at h
      · rename_i hc
        rw [hc, ← Option.some.inj h]
        decide
    exact absurd h (by simp only [reduceCtorEq, not_false_eq_true])
  · intro h
    simp only [letters, List.mem_cons, Prod.mk.injEq, List.not_mem_nil, or_false] at h
    rcases h with h | h | h | h | h | h | h | h
    all_goals
      rw [h.1, h.2]
      decide

theorem toNat_ofNat (n : Nat) (h : n.isValidChar) : (Char.ofNat n).toNat = n := by
  rw [Char.ofNat, dif_pos h]
  rfl

/-- The next spelling of a string that is read. -/
theorem string_letter (done piece rest : List Char) (x : Char) (h : Letter piece x) :
    string done (piece ++ rest) = string (x :: done) rest := by
  cases h with
  | plain _ hc hquote hslash => exact string_plain done rest x hquote hslash (Nat.not_lt.mpr hc)
  | escape c _ h =>
      have hletters : ∀ entry ∈ letters, entry.1 ≠ 'u' := by decide
      exact string_escape done rest c x (hletters (c, x) h) ((escaped?_eq_some_iff c x).mpr h)
  | unit a b c d _ h =>
      exact string_unit done rest a b c d x ((hexUnit?_eq_some_iff a b c d _).mpr h)
  | pair a b c d e f g h _ high low hhigh hlow hhighs hlows hx =>
      have hfirst := (hexUnit?_eq_some_iff a b c d high).mpr hhigh
      have hsecond := (hexUnit?_eq_some_iff e f g h low).mpr hlow
      have hishigh : isHighSurrogate high = true := by
        simp only [isHighSurrogate, Bool.and_eq_true, decide_eq_true_eq]
        exact hhighs
      have hislow : isLowSurrogate low = true := by
        simp only [isLowSurrogate, Bool.and_eq_true, decide_eq_true_eq]
        exact hlows
      have hchar : ofSurrogates high low = x := by
        rw [ofSurrogates, ← hx, Char.ofNat_toNat]
      simp only [List.cons_append, List.nil_append, string, hfirst, hishigh, if_true, hsecond,
        hislow, hchar]

theorem string_complete (pieces : List (List Char)) (chars done rest : List Char)
    (h : List.Forall₂ Letter pieces chars) :
    string done (pieces.flatten ++ '"' :: rest)
      = some (String.ofList (done.reverse ++ chars), rest) := by
  induction h generalizing done with
  | nil => rw [List.flatten_nil, List.nil_append, List.append_nil, string_close]
  | cons hletter _ ih =>
      rw [List.flatten_cons, List.append_assoc, string_letter done _ _ _ hletter, ih,
        List.reverse_cons, List.append_assoc, List.singleton_append]

/-- A spelling in front of a string that is read. -/
theorem exists_pieces_cons (done piece text rest : List Char) (x : Char) (s : String)
    (hletter : Letter piece x)
    (h : ∃ pieces chars, List.Forall₂ Letter pieces chars ∧ text = pieces.flatten ++ '"' :: rest ∧
      s = String.ofList ((x :: done).reverse ++ chars)) :
    ∃ pieces chars, List.Forall₂ Letter pieces chars ∧
      piece ++ text = pieces.flatten ++ '"' :: rest ∧
      s = String.ofList (done.reverse ++ chars) := by
  rcases h with ⟨pieces, chars, hall, rfl, rfl⟩
  refine ⟨piece :: pieces, x :: chars, .cons hletter hall, ?_, ?_⟩
  · rw [List.flatten_cons, List.append_assoc]
  · rw [List.reverse_cons, List.append_assoc, List.singleton_append]

theorem string_sound (done text rest : List Char) (s : String)
    (h : string done text = some (s, rest)) :
    ∃ pieces chars, List.Forall₂ Letter pieces chars ∧ text = pieces.flatten ++ '"' :: rest ∧
      s = String.ofList (done.reverse ++ chars) := by
  -- The turns of the reader that take something are the closing quote, a pair, a
  -- number, a letter and a plain character; in all others it refuses.
  fun_induction string done text with
  | case2 done rest' =>
      rcases Prod.mk.inj (Option.some.inj h) with ⟨rfl, rfl⟩
      exact ⟨[], [], .nil, rfl, by rw [List.append_nil]⟩
  | case5 done a b c d high hhigh hishigh e f g h' rest' low hlow hislow ih =>
      rw [hexUnit?_eq_some_iff] at hhigh hlow
      simp only [isHighSurrogate, isLowSurrogate, Bool.and_eq_true, decide_eq_true_eq]
        at hishigh hislow
      have hvalid : (0x10000 + (high - 0xD800) * 0x400 + (low - 0xDC00)).isValidChar :=
        Or.inr (by omega)
      exact exists_pieces_cons done _ rest' rest _ s
        (.pair a b c d e f g h' _ high low hhigh hlow hishigh hislow (toNat_ofNat _ hvalid)) (ih h)
  | case9 done a b c d rest' unit hunit hnothigh hnotlow ih =>
      rw [hexUnit?_eq_some_iff] at hunit
      have hlt := hex_lt a b c d unit hunit
      simp only [isHighSurrogate, isLowSurrogate, Bool.and_eq_true, decide_eq_true_eq]
        at hnothigh hnotlow
      have hvalid : unit.isValidChar := by
        change unit < 0xD800 ∨ 0xDFFF < unit ∧ unit < 0x110000
        omega
      refine exists_pieces_cons done _ rest' rest _ s (.unit a b c d _ ?_) (ih h)
      rw [toNat_ofNat unit hvalid]
      exact hunit
  | case11 done c rest' hnotunit x hx ih =>
      exact exists_pieces_cons done _ rest' rest x s
        (.escape c x ((escaped?_eq_some_iff c x).mp hx)) (ih h)
  | case13 done c rest' hquote hnotunit hnotslash hplain ih =>
      rw [not_or, Nat.not_lt] at hplain
      exact exists_pieces_cons done _ rest' rest c s (.plain c hplain.1 hquote hplain.2) (ih h)
  | case1 | case3 | case4 | case6 | case7 | case8 | case10 | case12 =>
      exact absurd h (by simp only [reduceCtorEq, not_false_eq_true])

theorem digits_sound (text run rest : List Char) (h : digits text = some (run, rest)) :
    Digits run ∧ text = run ++ rest := by
  simp only [digits] at h
  split at h
  · exact absurd h (by simp only [reduceCtorEq, not_false_eq_true])
  · rename_i hne
    rcases Prod.mk.inj (Option.some.inj h) with ⟨rfl, rfl⟩
    refine ⟨⟨fun hnil => hne (List.isEmpty_iff.mpr hnil), fun c hc => ?_⟩, ?_⟩
    · exact List.mem_takeWhile_imp hc
    · exact List.takeWhile_append_dropWhile.symm

theorem whole_sound (text w rest : List Char) (h : whole text = some (w, rest)) :
    (w = ['0'] ∨ Digits w ∧ w.head? ≠ some '0') ∧ text = w ++ rest := by
  unfold whole at h
  split at h
  · rcases Prod.mk.inj (Option.some.inj h) with ⟨rfl, rfl⟩
    exact ⟨Or.inl rfl, rfl⟩
  · rename_i hzero
    rcases digits_sound text w rest h with ⟨hdigits, rfl⟩
    refine ⟨Or.inr ⟨hdigits, fun hhead => ?_⟩, rfl⟩
    rcases List.head?_eq_some_iff.mp hhead with ⟨more, rfl⟩
    exact hzero _ rfl

theorem whole_complete (w rest : List Char) (hw : w = ['0'] ∨ Digits w ∧ w.head? ≠ some '0')
    (hrest : NoDigit rest) : whole (w ++ rest) = some (w, rest) := by
  rcases hw with rfl | ⟨hdigits, hhead⟩
  · rfl
  · have hread := digits_append w rest hdigits.2 hdigits.1 hrest
    cases w with
    | nil => exact absurd rfl hdigits.1
    | cons c more =>
        rw [List.cons_append] at hread ⊢
        rw [whole]
        · exact hread
        · intro _ heq
          exact hhead (congrArg some (List.cons.inj heq).1)

theorem fraction_sound (text f rest : List Char) (h : fraction text = some (f, rest)) :
    (∀ c ∈ f, c.isDigit = true) ∧ text = (if f = [] then [] else '.' :: f) ++ rest := by
  unfold fraction at h
  split at h
  · rename_i after
    rcases digits_sound after f rest h with ⟨hdigits, rfl⟩
    rw [if_neg hdigits.1]
    exact ⟨hdigits.2, rfl⟩
  · rcases Prod.mk.inj (Option.some.inj h) with ⟨rfl, rfl⟩
    exact ⟨fun c hc => absurd hc List.not_mem_nil, rfl⟩

theorem fraction_complete (f rest : List Char) (hf : ∀ c ∈ f, c.isDigit = true)
    (hrest : NoDigit rest) (hpoint : rest.head? ≠ some '.') :
    fraction ((if f = [] then [] else '.' :: f) ++ rest) = some (f, rest) := by
  by_cases hnil : f = []
  · rw [if_pos hnil, hnil, List.nil_append, fraction]
    intro more heq
    rw [heq] at hpoint
    exact hpoint rfl
  · rw [if_neg hnil, List.cons_append, fraction]
    exact digits_append f rest hf hnil hrest

/-- The number of an exponent, as its sign times its digits. -/
theorem exponent_value (e : Exponent) :
    e.value = (if e.sign = some '-' then -1 else 1) * (Numeral.decimal e.digits : Int) := by
  unfold Exponent.value
  by_cases h : e.sign = some '-'
  · rw [if_pos h, if_pos h, Int.neg_one_mul]
  · rw [if_neg h, if_neg h, Int.one_mul]

/-- An exponent whose mark and sign have been read. -/
theorem exponent_of_digits (mark : Char) (sign : Option Char) (text rest : List Char)
    (e : Option Int) (hmark : mark = 'e' ∨ mark = 'E')
    (hsign : sign = none ∨ sign = some '+' ∨ sign = some '-')
    (h : (digits text).map (fun x =>
      (some ((if sign = some '-' then -1 else 1) * (Numeral.decimal x.1 : Int)), x.2))
        = some (e, rest)) :
    ∃ x : Option Exponent, (∀ y, x = some y → y.WellFormed) ∧ e = x.map Exponent.value ∧
      mark :: (sign.toList ++ text) = (x.map Exponent.text).getD [] ++ rest := by
  rcases Option.map_eq_some_iff.mp h with ⟨⟨run, after⟩, hdigits, heq⟩
  rcases Prod.mk.inj heq with ⟨rfl, rfl⟩
  rcases digits_sound text run after hdigits with ⟨hrun, rfl⟩
  refine ⟨some ⟨mark, sign, run⟩, fun y hy => ?_, ?_, ?_⟩
  · rw [← Option.some.inj hy]
    exact ⟨hmark, hsign, hrun⟩
  · rw [Option.map_some, exponent_value]
  · rw [Option.map_some, Option.getD_some, Exponent.text, List.cons_append, List.append_assoc]

theorem exponent_sound (text rest : List Char) (e : Option Int)
    (h : exponent text = some (e, rest)) :
    ∃ x : Option Exponent, (∀ y, x = some y → y.WellFormed) ∧ e = x.map Exponent.value ∧
      text = (x.map Exponent.text).getD [] ++ rest := by
  have hnone : ∀ y : Exponent, none = some y → y.WellFormed := fun y hy => nomatch hy
  cases text with
  | nil =>
      rcases Prod.mk.inj (Option.some.inj h) with ⟨rfl, rfl⟩
      exact ⟨none, hnone, rfl, rfl⟩
  | cons c after =>
      simp only [exponent] at h
      split at h
      · rename_i hmark
        split at h
        · exact exponent_of_digits c (some '+') _ rest e hmark (Or.inr (Or.inl rfl)) h
        · exact exponent_of_digits c (some '-') _ rest e hmark (Or.inr (Or.inr rfl)) h
        · exact exponent_of_digits c none _ rest e hmark (Or.inl rfl) h
      · rcases Prod.mk.inj (Option.some.inj h) with ⟨rfl, rfl⟩
        exact ⟨none, hnone, rfl, rfl⟩

/-- An exponent is its mark, its sign and the digits after them. -/
theorem exponent_cons (mark : Char) (sign : Option Char) (text : List Char)
    (hmark : mark = 'e' ∨ mark = 'E') (hsign : sign = none ∨ sign = some '+' ∨ sign = some '-')
    (hfirst : sign = none → ∀ c ∈ text.head?, c ≠ '+' ∧ c ≠ '-') :
    exponent (mark :: (sign.toList ++ text)) = (digits text).map fun x =>
      (some ((if sign = some '-' then -1 else 1) * (Numeral.decimal x.1 : Int)), x.2) := by
  simp only [exponent, if_pos hmark]
  rcases hsign with rfl | rfl | rfl
  · -- Without a sign, what follows the mark is looked at for one in vain.
    rw [Option.toList_none, List.nil_append]
    split
    · exact absurd rfl (hfirst rfl '+' rfl).1
    · exact absurd rfl (hfirst rfl '-' rfl).2
    · rfl
  · rfl
  · rfl

theorem exponent_complete (x : Option Exponent) (rest : List Char)
    (hx : ∀ y, x = some y → y.WellFormed) (hrest : Stops rest) :
    exponent ((x.map Exponent.text).getD [] ++ rest) = some (x.map Exponent.value, rest) := by
  cases x with
  | none => exact exponent_of_stops rest hrest
  | some e =>
      rcases hx e rfl with ⟨hmark, hsign, hdigits⟩
      have hread := digits_append e.digits rest hdigits.2 hdigits.1 (noDigit_of_stops rest hrest)
      have hfirst : ∀ c ∈ (e.digits ++ rest).head?, c ≠ '+' ∧ c ≠ '-' := by
        intro c hc
        cases hrun : e.digits with
        | nil => exact absurd hrun hdigits.1
        | cons d more =>
            rw [hrun, List.cons_append, List.head?_cons, Option.mem_some_iff] at hc
            have hdigit : c.isDigit = true := by
              rw [← hc]
              exact hdigits.2 d (hrun ▸ List.mem_cons_self)
            constructor
            · rintro rfl
              exact absurd hdigit (by decide)
            · rintro rfl
              exact absurd hdigit (by decide)
      rw [Option.map_some, Option.getD_some, Exponent.text, List.cons_append, List.append_assoc,
        exponent_cons e.mark e.sign _ hmark hsign fun _ => hfirst, hread, Option.map_some,
        Option.map_some, exponent_value]

/-- The rest of a number after its sign. -/
def unsigned (negative : Bool) (text : List Char) : Option (Number × List Char) := do
  let (w, text) ← whole text
  let (f, text) ← fraction text
  let (e, text) ← exponent text
  return (← assemble negative w f e, text)

theorem number_minus (text : List Char) : number ('-' :: text) = unsigned true text := rfl

theorem number_of_ne (text : List Char) (h : ∀ rest, text ≠ '-' :: rest) :
    number text = unsigned false text := by
  unfold number
  split
  rename_i negative rest heq
  split at heq
  · rename_i more
    exact absurd rfl (h more)
  · rcases Prod.mk.inj heq with ⟨rfl, rfl⟩
    rfl

theorem unsigned_eq_some_iff (negative : Bool) (text rest : List Char) (n : Number) :
    unsigned negative text = some (n, rest) ↔
      ∃ w after f later e, whole text = some (w, after) ∧ fraction after = some (f, later) ∧
        exponent later = some (e, rest) ∧ assemble negative w f e = some n := by
  simp only [unsigned, Option.bind_eq_bind, Option.bind_eq_some_iff, Option.pure_def,
    Option.some.injEq, Prod.mk.injEq, Prod.exists]
  constructor
  · rintro ⟨w, after, hw, f, later, hf, e, rest, he, n, hn, rfl, rfl⟩
    exact ⟨w, after, f, later, e, hw, hf, he, hn⟩
  · rintro ⟨w, after, f, later, e, hw, hf, he, hn⟩
    exact ⟨w, after, hw, f, later, hf, e, rest, he, n, hn, rfl, rfl⟩

/-- The whole number of a literal is the one that its digits say. -/
theorem exact_iff (l : Literal) (n : Int) :
    l.Exact n ↔ l.fraction = [] ∧ l.exponent = none ∧
      (l.negative = false ∧ Numeral.decimal l.whole < 0x10000000000000000 ∧
          n = Numeral.decimal l.whole ∨
        l.negative = true ∧ 0 < Numeral.decimal l.whole ∧
          Numeral.decimal l.whole ≤ 0x8000000000000000 ∧ n = -Numeral.decimal l.whole) := by
  unfold Literal.Exact
  refine and_congr Iff.rfl (and_congr Iff.rfl (or_congr ?_ ?_))
  · refine and_congr Iff.rfl ?_
    omega
  · refine and_congr Iff.rfl ?_
    omega

theorem means_iff_of_exact (l : Literal) (i : Int) (h : l.Exact i) (n : Number) :
    l.Means n ↔ .int i = n := by
  constructor
  · rintro (⟨j, hj⟩ | ⟨m, scale, x, hnone, -, -⟩)
    · -- Both are the number of the digits, with the sign of the literal.
      rcases h.2.2 with ⟨hneg, rfl, -⟩ | ⟨hneg, rfl, -⟩
      · rcases hj.2.2 with ⟨-, rfl, -⟩ | ⟨hneg', -⟩
        · rfl
        · exact absurd (hneg.symm.trans hneg') Bool.false_ne_true
      · rcases hj.2.2 with ⟨hneg', -⟩ | ⟨-, rfl, -⟩
        · exact absurd (hneg'.symm.trans hneg) Bool.false_ne_true
        · rfl
    · exact absurd h (hnone i)
  · rintro rfl
    exact .exact i h

theorem means_iff_of_not_exact (l : Literal) (h : ∀ i, ¬ l.Exact i) (n : Number) :
    l.Means n ↔ (double? l.negative l.whole l.fraction
      ((l.exponent.map Exponent.value).getD 0)).map .float = some n := by
  rw [Option.map_eq_some_iff]
  constructor
  · rintro (⟨i, hi⟩ | ⟨m, scale, x, -, hm, hx⟩)
    · exact absurd hi (h i)
    · exact ⟨_, (double?_eq_some_iff l _).mpr ⟨m, scale, x, hm, hx, rfl⟩, rfl⟩
  · rintro ⟨y, hy, rfl⟩
    rcases (double?_eq_some_iff l y).mp hy with ⟨m, scale, x, hm, hx, rfl⟩
    exact .rounded m scale x h hm hx

theorem assemble_eq_some_iff (l : Literal) (n : Number) :
    assemble l.negative l.whole l.fraction (l.exponent.map Exponent.value) = some n ↔
      l.Means n := by
  simp only [assemble, List.isEmpty_iff, Option.isNone_map, Option.isNone_iff_eq_none,
    Bool.not_eq_true']
  split
  · rename_i hpos
    rw [means_iff_of_exact l (Numeral.decimal l.whole)
      ((exact_iff l _).mpr ⟨hpos.1, hpos.2.1, Or.inl ⟨hpos.2.2.1, hpos.2.2.2, rfl⟩⟩) n,
      Option.some.injEq]
  split
  · rename_i hneg
    rw [means_iff_of_exact l (-Numeral.decimal l.whole)
      ((exact_iff l _).mpr ⟨hneg.1, hneg.2.1,
        Or.inr ⟨hneg.2.2.1, hneg.2.2.2.1, hneg.2.2.2.2, rfl⟩⟩) n, Option.some.injEq]
  · rename_i hpos hneg
    refine (means_iff_of_not_exact l (fun i hi => ?_) n).symm
    rcases (exact_iff l i).mp hi with ⟨hf, he, ⟨hn, hlt, -⟩ | ⟨hn, hlt, hle, -⟩⟩
    · exact hpos ⟨hf, he, hn, hlt⟩
    · exact hneg ⟨hf, he, hn, hlt, hle⟩

theorem unsigned_sound (negative : Bool) (text rest : List Char) (n : Number)
    (h : unsigned negative text = some (n, rest)) :
    ∃ l : Literal, l.negative = negative ∧ l.WellFormed ∧ l.Means n ∧
      text = l.whole ++ (l.fractionText ++ l.exponentText) ++ rest := by
  rcases (unsigned_eq_some_iff negative text rest n).mp h with
    ⟨w, after, f, later, e, hw, hf, he, hn⟩
  rcases whole_sound text w after hw with ⟨hwhole, rfl⟩
  rcases fraction_sound after f later hf with ⟨hfraction, rfl⟩
  rcases exponent_sound later rest e he with ⟨x, hx, rfl, rfl⟩
  refine ⟨⟨negative, w, f, x⟩, rfl, ⟨hwhole, hfraction, hx⟩, ?_, ?_⟩
  · exact (assemble_eq_some_iff ⟨negative, w, f, x⟩ n).mp hn
  · rw [List.append_assoc, List.append_assoc]
    rfl

theorem number_sound (text rest : List Char) (n : Number) (h : number text = some (n, rest)) :
    ∃ l : Literal, l.WellFormed ∧ l.Means n ∧ text = l.text ++ rest := by
  by_cases hsign : ∃ after, text = '-' :: after
  · rcases hsign with ⟨after, rfl⟩
    rw [number_minus] at h
    rcases unsigned_sound true after rest n h with ⟨l, hneg, hformed, hmeans, rfl⟩
    exact ⟨l, hformed, hmeans, by rw [Literal.text, hneg]; rfl⟩
  · rw [number_of_ne text fun after heq => hsign ⟨after, heq⟩] at h
    rcases unsigned_sound false text rest n h with ⟨l, hneg, hformed, hmeans, rfl⟩
    exact ⟨l, hformed, hmeans, by rw [Literal.text, hneg]; rfl⟩

/-- A well-formed number begins with a digit once its sign is gone. -/
theorem whole_head (l : Literal) (hl : l.WellFormed) :
    ∃ c more, l.whole = c :: more ∧ c.isDigit = true := by
  rcases hl.whole with h | ⟨hdigits, -⟩
  · exact ⟨'0', [], h, by decide⟩
  · cases hw : l.whole with
    | nil => exact absurd hw hdigits.1
    | cons c more => exact ⟨c, more, rfl, hdigits.2 c (hw ▸ List.mem_cons_self)⟩

/-- What follows the fraction of a number is no digit and no point. -/
theorem exponentText_head (l : Literal) (hl : l.WellFormed) (rest : List Char)
    (hrest : Stops rest) :
    NoDigit (l.exponentText ++ rest) ∧ (l.exponentText ++ rest).head? ≠ some '.' := by
  cases hx : l.exponent with
  | none =>
      rw [Literal.exponentText, hx]
      refine ⟨noDigit_of_stops rest hrest, fun hpoint => ?_⟩
      rcases List.head?_eq_some_iff.mp hpoint with ⟨more, heq⟩
      have heq : rest = '.' :: more := heq
      rw [heq] at hrest
      exact hrest.2.1 rfl
  | some e =>
      have hmark := (hl.exponent e hx).mark
      rw [Literal.exponentText, hx, Option.map_some, Option.getD_some, Exponent.text,
        List.cons_append]
      refine ⟨fun c hc => ?_, fun hpoint => ?_⟩
      · rw [List.head?_cons, Option.mem_some_iff] at hc
        rw [← hc]
        rcases hmark with h | h
        · rw [h]
          decide
        · rw [h]
          decide
      · rw [List.head?_cons, Option.some.injEq] at hpoint
        rw [hpoint] at hmark
        exact absurd hmark (by decide)

theorem unsigned_complete (l : Literal) (n : Number) (rest : List Char) (hl : l.WellFormed)
    (hn : l.Means n) (hrest : Stops rest) :
    unsigned l.negative (l.whole ++ (l.fractionText ++ l.exponentText) ++ rest)
      = some (n, rest) := by
  rcases exponentText_head l hl rest hrest with ⟨hdigit, hpoint⟩
  have hfraction : NoDigit (l.fractionText ++ (l.exponentText ++ rest)) := by
    unfold Literal.fractionText
    by_cases hnil : l.fraction = []
    · rw [if_pos hnil]
      exact hdigit
    · rw [if_neg hnil]
      intro c hc
      rw [List.cons_append, List.head?_cons, Option.mem_some_iff] at hc
      rw [← hc]
      decide
  rw [List.append_assoc, List.append_assoc, unsigned_eq_some_iff]
  exact ⟨l.whole, _, l.fraction, _, _, whole_complete l.whole _ hl.whole hfraction,
    fraction_complete l.fraction _ hl.fraction hdigit hpoint,
    exponent_complete l.exponent rest hl.exponent hrest, (assemble_eq_some_iff l n).mpr hn⟩

theorem number_complete (l : Literal) (n : Number) (rest : List Char) (hl : l.WellFormed)
    (hn : l.Means n) (hrest : Stops rest) : number (l.text ++ rest) = some (n, rest) := by
  have hread := unsigned_complete l n rest hl hn hrest
  cases hneg : l.negative with
  | true =>
      rw [hneg] at hread
      rw [Literal.text, hneg, if_pos rfl, List.singleton_append, List.cons_append, number_minus,
        hread]
  | false =>
      rw [hneg] at hread
      rw [Literal.text, hneg, if_neg Bool.false_ne_true, List.nil_append, number_of_ne, hread]
      -- A number without a minus sign begins with a digit.
      intro more heq
      rcases whole_head l hl with ⟨c, tail, hw, hc⟩
      rw [hw, List.cons_append, List.cons_append] at heq
      rw [(List.cons.inj heq).1] at hc
      exact absurd hc (by decide)

end Reader

end Json

end PageSweep
