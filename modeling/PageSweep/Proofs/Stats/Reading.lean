import Mathlib.Algebra.Order.Field.Rat
import Mathlib.Tactic.NormNum
import PageSweep.Decimal.Fixed
import PageSweep.Proofs.Text.Digits
import PageSweep.Proofs.Text.Pieces

/-!
# What a Printed Latency Says

A printed latency is a number of hundredths of a unit, or minutes with a number of
hundredths of a second. It says one thing only. The point and the two digits before the
unit show where its parts are: what stands before the point is the whole number, with an
`m` in it exactly if there are minutes.

## Main definitions

* `Scale`: The units.
* `Reading`: What a printed latency says.
* `Reading.text`: How it is printed.
* `Reading.value`, `Reading.lastPlace`: What it denotes, and its last digit.
* `Reading.Normal`: Whether the next unit would not be used for it.

## Theorems

* `text_injective`: A text says one thing only.
-/

namespace PageSweep

namespace Latency

/-- The units in which latencies are printed. -/
inductive Scale where
  | micros
  | millis
  | secs
  deriving DecidableEq

namespace Scale

/-- The name of a unit. -/
def name : Scale → String
  | .micros => "µs"
  | .millis => "ms"
  | .secs => "s"

/-- The milliseconds of a unit. -/
def size : Scale → ℚ
  | .micros => 1 / 1000
  | .millis => 1
  | .secs => 1000

/-- The hundredths of a unit that make up the next one. -/
def limit : Scale → Nat
  | .micros => 100000
  | .millis => 100000
  | .secs => 6000

theorem size_pos (s : Scale) : 0 < s.size := by
  cases s <;> norm_num [size]

theorem name_injective (s t : Scale) (h : s.name.toList = t.name.toList) : s = t := by
  cases s <;> cases t <;> revert h <;> decide

end Scale

/-- What a printed latency says: a number of hundredths of a unit, or one minute or more
and a number of hundredths of a second. -/
inductive Reading where
  | plain (scale : Scale) (hundredths : Nat)
  | long (minutes : Nat) (hpos : 1 ≤ minutes) (hundredths : Nat)

namespace Reading

/-- The unit of the hundredths. -/
def scale : Reading → Scale
  | .plain scale _ => scale
  | .long _ _ _ => .secs

def hundredths : Reading → Nat
  | .plain _ hundredths => hundredths
  | .long _ _ hundredths => hundredths

def minutes : Reading → Nat
  | .plain _ _ => 0
  | .long minutes _ _ => minutes

/-- How a reading is printed. -/
def text : Reading → String
  | .plain scale hundredths => Decimal.pointed 2 hundredths ++ scale.name
  | .long minutes _ hundredths => toString minutes ++ "m" ++ Decimal.pointed 2 hundredths ++ "s"

/-- The milliseconds that a reading denotes. -/
def value (r : Reading) : ℚ := 60000 * r.minutes + r.hundredths / 100 * r.scale.size

/-- The milliseconds of a unit of the last digit. -/
def lastPlace (r : Reading) : ℚ := r.scale.size / 100

/-- The number before the unit is less than what makes up the next unit. -/
def Normal (r : Reading) : Prop := r.hundredths < r.scale.limit

/-- What stands before the point. -/
def front : Reading → List Char
  | .plain _ hundredths => Nat.toDigits 10 (hundredths / 100)
  | .long minutes _ hundredths =>
    Nat.toDigits 10 minutes ++ 'm' :: Nat.toDigits 10 (hundredths / 100)

theorem toList_pointed (n : Nat) :
    (Decimal.pointed 2 n).toList
      = Nat.toDigits 10 (n / 100) ++ '.' :: Numeral.fixed 2 (n % 100) := by
  have hwhole : (toString (n / Nat.pow 10 2)).toList = Nat.toDigits 10 (n / 100) :=
    Nat.toList_repr
  have hrest : (Decimal.padded 2 (n % Nat.pow 10 2)).toList = Numeral.fixed 2 (n % 100) :=
    Numeral.padded_eq_fixed 1 (n % 100) (Nat.mod_lt n (by decide))
  rw [Decimal.pointed, String.toList_append, String.toList_append, hwhole, hrest,
    List.append_assoc]
  rfl

/-- The parts of a text. -/
theorem toList_text (r : Reading) :
    r.text.toList
      = r.front ++ '.' :: (Numeral.fixed 2 (r.hundredths % 100) ++ r.scale.name.toList) := by
  cases r with
  | plain scale hundredths =>
      rw [text, String.toList_append, toList_pointed, List.append_assoc]
      rfl
  | long minutes hpos hundredths =>
      have hminutes : (toString minutes).toList = Nat.toDigits 10 minutes := Nat.toList_repr
      rw [text, String.toList_append, String.toList_append, String.toList_append, toList_pointed,
        hminutes]
      simp only [front, List.append_assoc, List.cons_append]
      rfl

theorem toDigits_injective (m n : Nat) (h : Nat.toDigits 10 m = Nat.toDigits 10 n) : m = n := by
  have hvalue := congrArg (fun digits => Nat.ofDigitChars 10 digits 0) h
  rw [Nat.ofDigitChars_ten_toDigits, Nat.ofDigitChars_ten_toDigits] at hvalue
  exact hvalue

theorem isDigit_of_mem (n : Nat) (c : Char) (hc : c ∈ Nat.toDigits 10 n) : c.isDigit = true :=
  Nat.isDigit_of_mem_toDigits (by decide) (by decide) hc

theorem ne_of_mem_toDigits (n : Nat) (mark : Char) (hmark : mark.isDigit = false) :
    ∀ c ∈ Nat.toDigits 10 n, c ≠ mark := by
  intro c hc heq
  have hdigit := isDigit_of_mem n c hc
  rw [heq, hmark] at hdigit
  exact Bool.false_ne_true hdigit

/-- There is no point before the point. -/
theorem ne_of_mem_front (r : Reading) : ∀ c ∈ r.front, c ≠ '.' := by
  cases r with
  | plain scale hundredths => exact ne_of_mem_toDigits _ '.' (by decide)
  | long minutes hpos hundredths =>
      intro c hc
      rcases List.mem_append.mp hc with hc | hc
      · exact ne_of_mem_toDigits _ '.' (by decide) c hc
      · rcases List.mem_cons.mp hc with rfl | hc
        · decide
        · exact ne_of_mem_toDigits _ '.' (by decide) c hc

theorem ne_front (scale : Scale) (hundredths minutes : Nat) (hpos : 1 ≤ minutes) (others : Nat) :
    (plain scale hundredths).front ≠ (long minutes hpos others).front := by
  intro h
  have hmem : 'm' ∈ (long minutes hpos others).front :=
    List.mem_append_right _ List.mem_cons_self
  rw [← h] at hmem
  exact ne_of_mem_toDigits _ 'm' (by decide) 'm' hmem rfl

/-- A text says one thing only. -/
theorem text_injective (r q : Reading) (h : r.text = q.text) : r = q := by
  have hparts := congrArg (fun t => Text.cut? '.' (String.toList t)) h
  rw [toList_text, toList_text, Text.cut?_append_cons '.' _ _ (ne_of_mem_front r),
    Text.cut?_append_cons '.' _ _ (ne_of_mem_front q), Option.some.injEq, Prod.mk.injEq] at hparts
  rcases hparts with ⟨hfront, hback⟩
  -- The two digits after the point come before the unit.
  rcases List.append_inj hback (by rw [Numeral.length_fixed, Numeral.length_fixed])
    with ⟨hdigits, hname⟩
  have hrest : r.hundredths % 100 = q.hundredths % 100 := by
    have hvalue := congrArg Numeral.decimal hdigits
    rw [Numeral.decimal_fixed 2 (r.hundredths % 100) (Nat.mod_lt _ (by decide)),
      Numeral.decimal_fixed 2 (q.hundredths % 100) (Nat.mod_lt _ (by decide))] at hvalue
    exact hvalue
  have hscale := Scale.name_injective _ _ hname
  cases r with
  | plain scale hundredths =>
      cases q with
      | plain scale' hundredths' =>
          have hwhole := toDigits_injective _ _ hfront
          simp only [Reading.hundredths, Reading.scale] at hrest hscale
          rw [hscale, show hundredths = hundredths' by omega]
      | long minutes' hpos' hundredths' => exact absurd hfront (ne_front _ _ _ _ _)
  | long minutes hpos hundredths =>
      cases q with
      | plain scale' hundredths' => exact absurd hfront.symm (ne_front _ _ _ _ _)
      | long minutes' hpos' hundredths' =>
          have hcut := congrArg (Text.cut? 'm') hfront
          simp only [front] at hcut
          rw [Text.cut?_append_cons 'm' _ _ (ne_of_mem_toDigits _ 'm' (by decide)),
            Text.cut?_append_cons 'm' _ _ (ne_of_mem_toDigits _ 'm' (by decide)),
            Option.some.injEq, Prod.mk.injEq] at hcut
          have hminutes := toDigits_injective _ _ hcut.1
          have hwhole := toDigits_injective _ _ hcut.2
          simp only [Reading.hundredths] at hrest
          subst hminutes
          rw [show hundredths = hundredths' by omega]

end Reading

end Latency

end PageSweep
