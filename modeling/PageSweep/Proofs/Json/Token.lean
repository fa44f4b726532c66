import PageSweep.Json.Reader
import PageSweep.Json.Writer
import PageSweep.Proofs.Text.Numeral

/-!
# Written Tokens of JSON

The strings and whole numbers of the writer read back, whatever text follows. A
string ends at its closing quote, so anything may follow it. A number ends where the
digits end, so what follows must not go on with it; `Stops` says that.

Escapes are handled one character at a time. The reader distinguishes an escape by
several characters at once, so each of its cases has to be matched against the one
that the writer produces.

## Main definitions

* `Reader.Stops`: A text that does not go on with a number.
* `Reader.NoDigit`: A text that does not go on with a digit.

## Theorems

* `string_close`, `string_escape`, `string_unit`, `string_plain`: The turns of a string.
* `string_character`: A written character reads back.
* `string_chars`: A written string reads back.
* `whole_toDigits`: A run of digits is read to its end.
* `number_int`: A written whole number reads back.
-/

namespace PageSweep

namespace Json

namespace Reader

theorem hexUnit?_control (n : Nat) (hn : n < 0x20) :
    hexUnit? '0' '0' (Numeral.lower (n / 16)) (Numeral.lower (n % 16)) = some n := by
  have hzero : Numeral.digit? '0' = some 0 := by decide
  simp only [hexUnit?, hzero, Numeral.digit?_lower (n / 16) (by omega),
    Numeral.digit?_lower (n % 16) (by omega), Option.bind_eq_bind, Option.bind_some,
    Option.pure_def, Option.some.injEq]
  omega

/-- No character has the number of half a surrogate pair. -/
theorem surrogate_of_char (x : Char) :
    isHighSurrogate x.toNat = false ∧ isLowSurrogate x.toNat = false := by
  have hvalid : x.toNat < 0xD800 ∨ 0xDFFF < x.toNat ∧ x.toNat < 0x110000 := x.valid
  simp only [isHighSurrogate, isLowSurrogate, Bool.and_eq_false_iff, decide_eq_false_iff_not]
  omega

/-- The closing quote. -/
theorem string_close (done rest : List Char) :
    string done ('"' :: rest) = some (String.ofList done.reverse, rest) :=
  rfl

/-- An escape of one letter. -/
theorem string_escape (done rest : List Char) (c d : Char) (hc : c ≠ 'u')
    (hd : escaped? c = some d) :
    string done ('\\' :: c :: rest) = string (d :: done) rest := by
  rw [string, hd]
  intro _ _ _ _ _ h
  exact absurd h hc

/-- A character, escaped by its number. -/
theorem string_unit (done rest : List Char) (a b c d x : Char)
    (h : hexUnit? a b c d = some x.toNat) :
    string done ('\\' :: 'u' :: a :: b :: c :: d :: rest) = string (x :: done) rest := by
  rw [string, h]
  simp only [surrogate_of_char x, Bool.false_eq_true, if_false, Char.ofNat_toNat]

/-- A character that is written as it is. -/
theorem string_plain (done rest : List Char) (c : Char) (hquote : c ≠ '"') (hslash : c ≠ '\\')
    (hc : ¬ c.toNat < 0x20) : string done (c :: rest) = string (c :: done) rest := by
  rw [string]
  · rw [if_neg (by rintro (h | h) <;> contradiction)]
  · exact hquote
  · exact fun _ _ _ _ _ h => absurd h hslash
  · exact fun _ _ h => absurd h hslash

theorem string_character (done rest : List Char) (c : Char) :
    string done (Writer.character c ++ rest) = string (c :: done) rest := by
  unfold Writer.character
  -- Seven characters have an escape of one letter, the other controls one of
  -- four digits, and all else stands for itself.
  split
  · rename_i h; rw [h]; exact string_escape done rest '"' '"' (by decide) (by decide)
  split
  · rename_i h; rw [h]; exact string_escape done rest '\\' '\\' (by decide) (by decide)
  split
  · rename_i h; rw [h]; exact string_escape done rest 'b' '\x08' (by decide) (by decide)
  split
  · rename_i h; rw [h]; exact string_escape done rest 'f' '\x0c' (by decide) (by decide)
  split
  · rename_i h; rw [h]; exact string_escape done rest 'n' '\n' (by decide) (by decide)
  split
  · rename_i h; rw [h]; exact string_escape done rest 'r' '\r' (by decide) (by decide)
  split
  · rename_i h; rw [h]; exact string_escape done rest 't' '\t' (by decide) (by decide)
  split
  · rename_i h; exact string_unit done rest _ _ _ _ c (hexUnit?_control c.toNat h)
  · rename_i hquote hslash _ _ _ _ _ hc
    exact string_plain done rest c hquote hslash hc

theorem string_chars (chars done rest : List Char) :
    string done (chars.flatMap Writer.character ++ '"' :: rest)
      = some (String.ofList (done.reverse ++ chars), rest) := by
  induction chars generalizing done with
  | nil => rw [List.flatMap_nil, List.nil_append, List.append_nil, string_close]
  | cons c more ih =>
      rw [List.flatMap_cons, List.append_assoc, string_character, ih, List.reverse_cons,
        List.append_assoc, List.singleton_append]

/-- A string is read up to its closing quote. -/
theorem string_written (s : String) (rest : List Char) :
    string [] (s.toList.flatMap Writer.character ++ '"' :: rest) = some (s, rest) := by
  rw [string_chars, List.reverse_nil, List.nil_append, String.ofList_toList]

/-- A text that does not go on with a number. -/
def Stops : List Char → Prop
  | [] => True
  | c :: _ => c.isDigit = false ∧ c ≠ '.' ∧ c ≠ 'e' ∧ c ≠ 'E'

/-- A text that does not go on with a digit. -/
def NoDigit (text : List Char) : Prop :=
  ∀ c ∈ text.head?, c.isDigit = false

theorem noDigit_of_stops (rest : List Char) (hrest : Stops rest) : NoDigit rest := by
  intro c hc
  cases rest with
  | nil => exact absurd hc (by simp only [List.head?_nil, Option.not_mem_none, not_false_eq_true])
  | cons d more =>
      rw [List.head?_cons, Option.mem_some_iff] at hc
      rw [← hc]
      exact hrest.1

theorem digits_append (run rest : List Char) (hrun : ∀ c ∈ run, c.isDigit = true)
    (hne : run ≠ []) (hrest : NoDigit rest) : digits (run ++ rest) = some (run, rest) := by
  have htake : rest.takeWhile Char.isDigit = [] ∧ rest.dropWhile Char.isDigit = rest := by
    cases rest with
    | nil => exact ⟨rfl, rfl⟩
    | cons c more =>
        have hc : ¬ (c.isDigit = true) := by
          rw [hrest c rfl]
          exact Bool.false_ne_true
        exact ⟨List.takeWhile_cons_of_neg hc, List.dropWhile_cons_of_neg hc⟩
  -- There is a digit at least, or the reader would refuse.
  have hempty : run.isEmpty = false := List.isEmpty_eq_false_iff.mpr hne
  rw [digits, List.takeWhile_append_of_pos hrun, List.dropWhile_append_of_pos hrun, htake.1,
    htake.2, List.append_nil]
  simp only [hempty, Bool.false_eq_true, if_false]

/-- The digits of a positive number begin with none of the characters that the reader
treats on their own. -/
theorem toDigits_head (n : Nat) (hn : 0 < n) :
    ∃ c rest, Nat.toDigits 10 n = c :: rest ∧ c ≠ '0' ∧ c ≠ '-' := by
  induction n using Nat.strongRecOn with
  | ind n ih =>
      have hdigit : ∀ d < 10, 0 < d → Nat.digitChar d ≠ '0' ∧ Nat.digitChar d ≠ '-' := by decide
      rw [Nat.toDigits_eq_if (by omega : 1 < 10)]
      by_cases hlt : n < 10
      · rw [if_pos hlt]
        exact ⟨_, _, rfl, hdigit n hlt hn⟩
      · rw [if_neg hlt]
        rcases ih (n / 10) (by omega) (by omega) with ⟨c, rest, heq, hc⟩
        exact ⟨c, rest ++ [Nat.digitChar (n % 10)], by rw [heq, List.cons_append], hc⟩

theorem whole_toDigits (n : Nat) (rest : List Char) (hrest : Stops rest) :
    whole (Nat.toDigits 10 n ++ rest) = some (Nat.toDigits 10 n, rest) := by
  have hall : ∀ c ∈ Nat.toDigits 10 n, c.isDigit = true :=
    fun c hc => Nat.isDigit_of_mem_toDigits (by omega) (by omega) hc
  rcases Nat.eq_zero_or_pos n with hn | hn
  · rw [hn]
    rfl
  · have hdigits := digits_append _ rest hall Nat.toDigits_ne_nil (noDigit_of_stops rest hrest)
    rcases toDigits_head n hn with ⟨c, more, heq, hc, _⟩
    rw [heq] at hdigits ⊢
    rw [List.cons_append] at hdigits ⊢
    rw [whole]
    · exact hdigits
    · exact fun _ h => hc (List.cons.inj h).1

theorem fraction_of_stops (rest : List Char) (hrest : Stops rest) :
    fraction rest = some ([], rest) := by
  cases rest with
  | nil => rfl
  | cons c more =>
      rw [fraction]
      exact fun _ h => absurd (List.cons.inj h).1 hrest.2.1

theorem exponent_of_stops (rest : List Char) (hrest : Stops rest) :
    exponent rest = some (none, rest) := by
  cases rest with
  | nil => rfl
  | cons c more =>
      have hc : ¬ (c = 'e' ∨ c = 'E') := by
        rintro (h | h)
        · exact hrest.2.2.1 h
        · exact hrest.2.2.2 h
      unfold exponent
      exact if_neg hc

theorem decimal_toDigits (n : Nat) : Numeral.decimal (Nat.toDigits 10 n) = n := by
  have h := @Nat.ofDigitChars_ten_toDigits n
  rw [Nat.ofDigitChars] at h
  simp only [Nat.mul_comm 10] at h
  exact h

theorem number_nat (n : Nat) (hn : n < 0x10000000000000000) (rest : List Char)
    (hrest : Stops rest) :
    number (Nat.toDigits 10 n ++ rest) = some (.int n, rest) := by
  -- The reader looks for a minus sign first.
  have hsign : ∀ more, Nat.toDigits 10 n ++ rest ≠ '-' :: more := by
    rcases Nat.eq_zero_or_pos n with h | h
    · rw [h]
      exact fun _ hc => absurd (List.cons.inj hc).1 (by decide)
    · rcases toDigits_head n h with ⟨c, more, heq, _, hc⟩
      rw [heq, List.cons_append]
      exact fun _ h' => hc (List.cons.inj h').1
  have hassemble : assemble false (Nat.toDigits 10 n) [] none = some (.int n) := by
    simp only [assemble, decimal_toDigits, List.isEmpty_nil, Option.isNone_none, Bool.not_false,
      hn, and_self, if_true]
  unfold number
  split
  rename_i negative text heq
  split at heq
  · rename_i more h
    exact absurd h (hsign more)
  · rcases Prod.mk.inj heq with ⟨hneg, htext⟩
    rw [← hneg, ← htext, whole_toDigits n rest hrest]
    simp only [Option.bind_eq_bind, Option.bind_some, fraction_of_stops rest hrest,
      exponent_of_stops rest hrest, hassemble, Option.pure_def]

theorem number_neg (n : Nat) (hpos : 0 < n) (hn : n ≤ 0x8000000000000000) (rest : List Char)
    (hrest : Stops rest) :
    number ('-' :: (Nat.toDigits 10 n ++ rest)) = some (.int (-n), rest) := by
  -- A negative number has a word of its own, down to its least value.
  have hassemble : assemble true (Nat.toDigits 10 n) [] none = some (.int (-n)) := by
    simp only [assemble, decimal_toDigits, List.isEmpty_nil, Option.isNone_none, Bool.not_true,
      Bool.false_eq_true, false_and, and_false, if_false, hpos, hn, and_self, if_true]
  simp only [number, whole_toDigits n rest hrest, Option.bind_eq_bind, Option.bind_some,
    fraction_of_stops rest hrest, exponent_of_stops rest hrest, hassemble, Option.pure_def]

theorem number_int (n : Int) (hlow : -0x8000000000000000 ≤ n) (hhigh : n < 0x10000000000000000)
    (rest : List Char) (hrest : Stops rest) :
    number (Writer.number (.int n) ++ rest) = some (.int n, rest) := by
  cases n with
  | ofNat m =>
      have hchars : Writer.number (.int (Int.ofNat m)) = Nat.toDigits 10 m := Nat.toList_repr
      have hm : (m : Int) < 0x10000000000000000 := hhigh
      rw [hchars]
      exact number_nat m (by omega) rest hrest
  | negSucc m =>
      have hchars : Writer.number (.int (Int.negSucc m)) = '-' :: Nat.toDigits 10 (m + 1) := by
        have h : Writer.number (.int (Int.negSucc m)) = ("-" ++ (m + 1).repr).toList := rfl
        rw [h, String.toList_append, Nat.toList_repr]
        rfl
      rw [hchars, List.cons_append, number_neg (m + 1) (by omega) (by omega) rest hrest]
      rfl

end Reader

end Json

end PageSweep
