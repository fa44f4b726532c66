import Mathlib.Algebra.BigOperators.Group.List.Basic
import Mathlib.Algebra.Ring.Nat
import PageSweep.Options.Setting
import PageSweep.Proofs.Text.Digits
import PageSweep.Report.Text

/-!
# Spans Read Back

A span that is written reads back to itself. The writer and the reader have little in
common: the one divides by ever shorter units and leaves out what is zero, the other
multiplies and adds, knows many more spellings, and refuses every number on its way that
does not fit in 64 bits.

What they share is a list of parts, numbers with units. The reader adds up the parts of
any list, as long as their sum is a span and the parts below a second do not come to one.
It does not matter how the parts were found, so the units only come in once, when the
parts that the writer finds are seen to add up to the span.

A scenario prints how long it took, cut to whole milliseconds. This is a span, so what is
printed can be given to the next run as its length.

## Main definitions

* `Part`: A number with a unit.
* `written`: Parts, one after another.
* `Unit.length`, `Unit.below`: The length of a unit, and what of it counts below a second.
* `total`, `totalSecs`, `totalBelow`: The sums of parts.
* `found`: The parts of a span.
* `RunStatistics.head`: The line of a scenario, up to its time.

## Theorems

* `addUnits_eq`: A number of units is added to a sum.
* `items_written`: Reading parts adds them up.
* `total_found`: The parts of a span add up to it.
* `read_text`: A written span reads back.
* `RunStatistics.elapsed_readable`: The time that a scenario prints.
-/

namespace PageSweep

namespace Span

namespace Reader

/-- A letter of a unit ends a number, and does not end the unit. -/
theorem plain_of_isUnitLetter (c : Char) (hc : isUnitLetter c = true) :
    c.isDigit = false ∧ Text.isBlank c = false := by
  have hrange : (65 ≤ c.toNat ∧ c.toNat ≤ 90) ∨ (97 ≤ c.toNat ∧ c.toNat ≤ 122) ∨
      c.toNat = 0xB5 := by
    have hletter : ((decide (c.val ≥ 'A'.val ∧ c.val ≤ 'Z'.val)
        || (decide (c.val ≥ 'a'.val) && decide (c.val ≤ 'z'.val))) || decide (c = 'µ')) = true := hc
    simp only [Bool.or_eq_true, Bool.and_eq_true, decide_eq_true_eq, ge_iff_le,
      UInt32.le_iff_toNat_le] at hletter
    rcases hletter with (hupper | hlower) | hmicro
    · exact Or.inl hupper
    · exact Or.inr (Or.inl hlower)
    · exact Or.inr (Or.inr (by rw [hmicro]; rfl))
  constructor
  · simp only [Char.isDigit, Bool.and_eq_false_iff, decide_eq_false_iff_not, ge_iff_le,
      UInt32.le_iff_toNat_le]
    change ¬ 48 ≤ c.toNat ∨ ¬ c.toNat ≤ 57
    omega
  · simp only [Text.isBlank, Bool.or_eq_false_iff, Bool.and_eq_false_iff, decide_eq_false_iff_not]
    omega

theorem isBlank_of_isDigit (c : Char) (hc : c.isDigit = true) : Text.isBlank c = false := by
  have hrange : 48 ≤ c.toNat ∧ c.toNat ≤ 57 := by
    simp only [Char.isDigit, Bool.and_eq_true, decide_eq_true_eq, ge_iff_le,
      UInt32.le_iff_toNat_le] at hc
    exact hc
  simp only [Text.isBlank, Bool.or_eq_false_iff, Bool.and_eq_false_iff, decide_eq_false_iff_not]
  omega

/-- Digits that are read to their end can be followed by anything. -/
theorem whole_append (front back : List Char) (n m offset stop : Nat)
    (h : whole n offset front = .ok (m, stop, [])) :
    whole n offset (front ++ back) = whole m stop back := by
  induction front generalizing n offset with
  | nil =>
      simp only [whole, Except.ok.injEq, Prod.mk.injEq] at h
      rw [h.1, h.2.1, List.nil_append]
  | cons c rest ih =>
      simp only [whole, List.cons_append] at h ⊢
      by_cases hdigit : c.isDigit = true
      · rw [if_pos hdigit] at h ⊢
        by_cases hlt : n * 10 + digit c < 0x10000000000000000
        · rw [if_pos hlt] at h ⊢
          exact ih _ _ h
        · rw [if_neg hlt] at h
          exact absurd h (by simp only [reduceCtorEq, not_false_eq_true])
      rw [if_neg hdigit] at h ⊢
      by_cases hblank : Text.isBlank c = true
      · rw [if_pos hblank] at h ⊢
        exact ih _ _ h
      -- At a letter the reader stops, and does not come to the end.
      rw [if_neg hblank] at h
      by_cases hletter : (isUnitLetter c || decide (c = '.')) = true
      · rw [if_pos hletter] at h
        simp at h
      · rw [if_neg hletter] at h
        exact absurd h (by simp only [reduceCtorEq, not_false_eq_true])

/-- The digits of a number, read from the left. -/
theorem whole_toDigits (n offset : Nat) (hlt : n < 0x10000000000000000) :
    ∃ stop, whole 0 offset (Nat.toDigits 10 n) = .ok (n, stop, []) := by
  have hdigit : ∀ m d stop, d < 10 → m * 10 + d < 0x10000000000000000 →
      whole m stop [Nat.digitChar d] = .ok (m * 10 + d, stop + 1, []) := by
    intro m d stop hd hbound
    have hvalue : digit (Nat.digitChar d) = d := Numeral.toNat_digitChar d hd
    simp only [whole, Numeral.isDigit_digitChar d hd, hvalue, if_true, if_pos hbound]
  induction n using Nat.strongRecOn generalizing offset with
  | ind n ih =>
      rw [Nat.toDigits_eq_if (by decide)]
      by_cases hn : n < 10
      · rw [if_pos hn]
        have h := hdigit 0 n offset hn (by omega)
        rw [Nat.zero_mul, Nat.zero_add] at h
        exact ⟨_, h⟩
      · rw [if_neg hn]
        -- The digits are those of the quotient and one more for the remainder.
        rcases ih (n / 10) (by omega) offset (by omega) with ⟨stop, hfront⟩
        have hlast := hdigit (n / 10) (n % 10) stop (by omega) (by omega)
        rw [show n / 10 * 10 + n % 10 = n by omega] at hlast
        exact ⟨_, by rw [whole_append _ _ _ _ _ _ hfront, hlast]⟩

/-- The letters of a unit are taken one after another. -/
theorem unit_append (letters back done : List Char) (offset : Nat)
    (hletters : ∀ c ∈ letters, isUnitLetter c = true) :
    ∃ stop, unit done offset (letters ++ back) = unit (letters.reverse ++ done) stop back := by
  induction letters generalizing done offset with
  | nil => exact ⟨offset, rfl⟩
  | cons c rest ih =>
      have hc := hletters c List.mem_cons_self
      rcases plain_of_isUnitLetter c hc with ⟨hdigit, hblank⟩
      rcases ih (c :: done) (offset + c.utf8Size)
        (fun d hd => hletters d (List.mem_cons_of_mem _ hd)) with ⟨stop, hrest⟩
      refine ⟨stop, ?_⟩
      rw [List.cons_append, unit, hdigit, hblank, hc, List.reverse_cons, List.append_assoc]
      exact hrest

end Reader

/-- A number with a unit, in one of the spellings of the unit. -/
structure Part where
  count : Nat
  unit : Unit
  name : String
  names : Unit.ofName? name = some unit
  letters : name.toList.all Reader.isUnitLetter = true

/-- What of the length of a unit counts below a second, in nanoseconds. -/
def Unit.below : Unit → Nat
  | .nanosecond => 1
  | .microsecond => 1000
  | .millisecond => 1000000
  | _ => 0

/-- The length of a unit in nanoseconds. -/
def Unit.length (unit : Unit) : Nat :=
  unit.seconds * 1000000000 + unit.below

section Adding

variable (sum : Span)

theorem ok_bind {ε α β : Type} (a : α) (f : α → Except ε β) : (Except.ok a >>= f) = f a := rfl

theorem word_of_lt (n : Nat) (h : n < 0x10000000000000000) : word n = .ok n := if_pos h

/-- Nothing is refused if the nanoseconds stay below a second and the sum is a span. -/
theorem add_eq (secs nanos : Nat) (hbelow : sum.subsec + nanos < 1000000000)
    (hfits : sum.nanos + secs * 1000000000 + nanos < 0x10000000000000000 * 1000000000) :
    sum.add secs nanos = .ok ⟨sum.nanos + secs * 1000000000 + nanos⟩ := by
  have hwhole : sum.secs + secs < 0x10000000000000000 := by
    unfold Span.secs
    omega
  have hcarry : ¬ (sum.subsec + nanos = 1000000000 ∧ sum.secs + secs = 0xFFFFFFFFFFFFFFFF) :=
    fun h => absurd h.1 (Nat.ne_of_lt hbelow)
  unfold add
  rw [word_of_lt _ (by omega), word_of_lt _ hwhole, ok_bind, ok_bind, if_neg hcarry]
  dsimp only
  rw [word_of_lt _ (by omega)]
  rfl

/-- A unit below a second is added as nanoseconds. -/
theorem addUnits_short (unit : Unit) (n : Nat) (hunit : unit.seconds = 0) :
    sum.addUnits unit n none = word (n * unit.below) >>= fun nanos => sum.add 0 nanos := by
  cases unit with
  | nanosecond | microsecond | millisecond =>
      unfold addUnits
      simp only [bind_pure]
      rfl
  | _ => exact absurd hunit (by decide)

/-- A unit of whole seconds is added as seconds. -/
theorem addUnits_long (unit : Unit) (n : Nat) (hunit : unit.below = 0) :
    sum.addUnits unit n none = word (n * unit.seconds) >>= fun secs => sum.add secs 0 := by
  cases unit with
  | nanosecond | microsecond | millisecond => exact absurd hunit (by decide)
  | _ =>
      unfold addUnits
      simp only [bind_pure]

theorem short_or_long (unit : Unit) : unit.seconds = 0 ∨ unit.below = 0 := by
  cases unit <;> decide

/-- A number of units is added to a sum. -/
theorem addUnits_eq (unit : Unit) (n : Nat) (hbelow : sum.subsec + n * unit.below < 1000000000)
    (hfits : sum.nanos + n * unit.length < 0x10000000000000000 * 1000000000) :
    sum.addUnits unit n none = .ok ⟨sum.nanos + n * unit.length⟩ := by
  have hsplit : n * unit.length = n * unit.seconds * 1000000000 + n * unit.below := by
    rw [Unit.length, Nat.mul_add, Nat.mul_assoc]
  rw [hsplit] at hfits ⊢
  have hadd := add_eq sum (n * unit.seconds) (n * unit.below) hbelow (by omega)
  rw [Nat.add_assoc] at hadd
  rw [← hadd]
  rcases short_or_long unit with hshort | hlong
  · have hword : n * unit.below < 0x10000000000000000 := by omega
    rw [addUnits_short sum unit n hshort, word_of_lt _ hword, ok_bind, hshort, Nat.mul_zero]
  · have hword : n * unit.seconds < 0x10000000000000000 := by omega
    rw [addUnits_long sum unit n hlong, word_of_lt _ hword, ok_bind, hlong, Nat.mul_zero]

end Adding

namespace Part

/-- A part as it is written. -/
def text (p : Part) : String := toString p.count ++ p.name

/-- The length of a part in nanoseconds. -/
def nanos (p : Part) : Nat := p.count * p.unit.length

/-- What of the length of a part counts below a second, in nanoseconds. -/
def below (p : Part) : Nat := p.count * p.unit.below

theorem nanos_eq (p : Part) : p.nanos = p.count * p.unit.seconds * 1000000000 + p.below := by
  rw [nanos, below, Unit.length, Nat.mul_add, Nat.mul_assoc]

/-- No unit is shorter than a nanosecond. -/
theorem count_le (p : Part) : p.count ≤ p.count * p.unit.seconds ∨ p.count ≤ p.below := by
  have hunit : ∀ u : Unit, 0 < u.seconds ∨ 0 < u.below := by
    intro u
    cases u <;> decide
  rcases hunit p.unit with hlong | hshort
  · exact Or.inl (Nat.le_mul_of_pos_right _ hlong)
  · exact Or.inr (Nat.le_mul_of_pos_right _ hshort)

theorem toList_text (p : Part) : p.text.toList = Nat.toDigits 10 p.count ++ p.name.toList := by
  have hdigits : (toString p.count).toList = Nat.toDigits 10 p.count := Nat.toList_repr
  rw [text, String.toList_append, hdigits]

/-- The name of a unit has a letter at least. -/
theorem exists_name (p : Part) : ∃ c rest, p.name.toList = c :: rest := by
  cases hname : p.name.toList with
  | nil =>
      have hempty : p.name = "" := String.toList_eq_nil_iff.mp hname
      have hnames := p.names
      rw [hempty] at hnames
      exact absurd (hnames.symm.trans (by decide : Unit.ofName? "" = none)) (Option.some_ne_none _)
  | cons c rest => exact ⟨c, rest, rfl⟩

/-- A part begins with a digit. -/
theorem exists_digit (p : Part) : ∃ c rest, p.text.toList = c :: rest ∧ c.isDigit = true := by
  rw [toList_text]
  cases hdigits : Nat.toDigits 10 p.count with
  | nil => exact absurd hdigits Nat.toDigits_ne_nil
  | cons c rest =>
      refine ⟨c, rest ++ p.name.toList, rfl, ?_⟩
      have hmem : c ∈ Nat.toDigits 10 p.count := by
        rw [hdigits]
        exact List.mem_cons_self
      exact Nat.isDigit_of_mem_toDigits (by decide) (by decide) hmem

end Part

/-- Parts, one after another. -/
def written (parts : List Part) : List Char :=
  [' '].intercalate (parts.map fun p => p.text.toList)

/-- The length of parts in nanoseconds. -/
def total (parts : List Part) : Nat := (parts.map Part.nanos).sum

/-- The seconds of parts with units of a second or more. -/
def totalSecs (parts : List Part) : Nat := (parts.map fun p => p.count * p.unit.seconds).sum

/-- What of the length of parts counts below a second, in nanoseconds. -/
def totalBelow (parts : List Part) : Nat := (parts.map Part.below).sum

theorem total_eq (parts : List Part) :
    total parts = totalSecs parts * 1000000000 + totalBelow parts := by
  induction parts with
  | nil => rfl
  | cons p others ih =>
      have htotal : total (p :: others) = p.nanos + total others := List.sum_cons
      have hsecs : totalSecs (p :: others) = p.count * p.unit.seconds + totalSecs others :=
        List.sum_cons
      have hbelow : totalBelow (p :: others) = p.below + totalBelow others := List.sum_cons
      rw [htotal, hsecs, hbelow, ih, p.nanos_eq, Nat.add_mul]
      omega

namespace Reader

/-- A part is read up to the blank behind it, or up to the end of the text. -/
theorem item_part (sum next : Span) (p : Part) (offset : Nat) (back rest : List Char)
    (hback : back = [] ∧ rest = [] ∨ back = ' ' :: rest) (hcount : p.count < 0x10000000000000000)
    (hadd : sum.addUnits p.unit p.count none = .ok next) :
    ∃ stop, item sum offset (p.text.toList ++ back) = .ok (next, stop, rest) := by
  rcases whole_toDigits p.count offset hcount with ⟨mark, hdigits⟩
  rcases unit_append p.name.toList back [] mark (List.all_eq_true.mp p.letters)
    with ⟨stop, hletters⟩
  rcases p.exists_name with ⟨c, letters, hname⟩
  have hc : isUnitLetter c = true := by
    refine List.all_eq_true.mp p.letters c ?_
    rw [hname]
    exact List.mem_cons_self
  have hnumber : whole 0 offset (p.text.toList ++ back)
      = .ok (p.count, mark, p.name.toList ++ back) := by
    rw [Part.toList_text, List.append_assoc, whole_append _ _ _ _ _ _ hdigits, hname]
    rcases plain_of_isUnitLetter c hc with ⟨hdigit, hblank⟩
    simp only [List.cons_append, whole, hdigit, hblank, hc, Bool.true_or, Bool.false_eq_true,
      if_false, if_true]
  have hunit : ∃ stop, unit [] mark (p.name.toList ++ back) = .ok (p.name, stop, rest) := by
    rw [hletters, List.append_nil]
    rcases hback with ⟨rfl, rfl⟩ | rfl
    · refine ⟨stop, ?_⟩
      rw [unit, List.reverse_reverse, String.ofList_toList]
    · refine ⟨stop + ' '.utf8Size, ?_⟩
      rw [unit, List.reverse_reverse, String.ofList_toList]
      rfl
  rcases hunit with ⟨stop, hunit⟩
  refine ⟨stop, ?_⟩
  have hdot : c ≠ '.' := by
    intro h
    rw [h] at hc
    exact absurd hc (by decide)
  have hempty : ¬ p.name.isEmpty = true := by
    rw [String.isEmpty_iff, ← String.toList_eq_nil_iff, hname]
    exact List.cons_ne_nil c letters
  unfold item
  rw [hnumber, ok_bind]
  rw [hname] at hunit ⊢
  dsimp only [List.cons_append]
  split
  · next h => exact absurd (List.cons.inj h).1 hdot
  · -- There is no fraction, and the name is that of the unit.
    refine (ok_bind _ _).trans ?_
    dsimp only
    rw [← List.cons_append, hunit, ok_bind]
    dsimp only
    rw [if_neg hempty, p.names]
    dsimp only
    rw [hadd]
    rfl

/-- What follows a part: nothing, or a blank and the other parts. -/
theorem written_cons (p : Part) (others : List Part) :
    ∃ back, written (p :: others) = p.text.toList ++ back ∧
      (back = [] ∧ written others = [] ∨ back = ' ' :: written others) := by
  cases others with
  | nil =>
      refine ⟨[], ?_, Or.inl ⟨rfl, rfl⟩⟩
      rw [List.append_nil]
      exact List.intercalate_singleton
  | cons q more =>
      refine ⟨' ' :: written (q :: more), ?_, Or.inr rfl⟩
      unfold written
      rw [List.map_cons, List.map_cons, List.intercalate_cons_cons, List.append_assoc]
      rfl

/-- One part is read, and the others are left. -/
theorem items_part (p : Part) (others : List Part) (more : Nat) (sum next : Span) (offset : Nat)
    (hcount : p.count < 0x10000000000000000)
    (hadd : sum.addUnits p.unit p.count none = .ok next) :
    ∃ stop, items (more + 1) sum offset (written (p :: others))
      = items more next stop (written others) := by
  rcases written_cons p others with ⟨back, hwritten, hback⟩
  rcases item_part sum next p (offset + blankSize []) back (written others) hback hcount hadd
    with ⟨stop, hitem⟩
  refine ⟨stop, ?_⟩
  rw [hwritten]
  -- The part begins with a digit, so there is no blank to skip.
  rcases p.exists_digit with ⟨c, rest, htext, hdigit⟩
  have hblank : ¬ Text.isBlank c = true := Bool.eq_false_iff.mp (isBlank_of_isDigit c hdigit)
  rw [htext, List.cons_append] at hitem ⊢
  rw [items, List.takeWhile_cons_of_neg hblank, List.dropWhile_cons_of_neg hblank]
  dsimp only
  rw [if_pos hdigit, hitem, ok_bind]

/-- Reading parts adds them up, as long as the sum is a span and what counts below a
second stays below it. The induction is on the parts, and every one of them leaves the
others room. -/
theorem items_written (parts : List Part) (fuel : Nat) (sum : Span) (offset : Nat)
    (hfuel : parts.length ≤ fuel) (hbelow : sum.subsec + totalBelow parts < 1000000000)
    (hfits : sum.nanos + total parts < 0x10000000000000000 * 1000000000) :
    items fuel sum offset (written parts) = .ok ⟨sum.nanos + total parts⟩ := by
  induction parts generalizing fuel sum offset with
  | nil =>
      cases fuel with
      | zero => rfl
      | succ more => rfl
  | cons p others ih =>
      have htotal : total (p :: others) = p.nanos + total others := List.sum_cons
      have hsplit : totalBelow (p :: others) = p.below + totalBelow others := List.sum_cons
      rw [htotal] at hfits ⊢
      rw [hsplit] at hbelow
      have hnanos := p.nanos_eq
      have hcount := p.count_le
      have hadd : sum.addUnits p.unit p.count none = .ok ⟨sum.nanos + p.nanos⟩ := by
        refine addUnits_eq sum p.unit p.count ?_ ?_
        · exact Nat.lt_of_le_of_lt (Nat.add_le_add_left (Nat.le_add_right _ _) _) hbelow
        · exact Nat.lt_of_le_of_lt (Nat.add_le_add_left (Nat.le_add_right _ _) _) hfits
      cases fuel with
      | zero => exact absurd hfuel (Nat.not_succ_le_zero _)
      | succ more =>
          rcases items_part p others more sum _ offset (by omega) hadd with ⟨stop, hstep⟩
          have hsubsec : (⟨sum.nanos + p.nanos⟩ : Span).subsec = sum.subsec + p.below := by
            unfold subsec at hbelow ⊢
            dsimp only
            omega
          rw [hstep, ih more ⟨sum.nanos + p.nanos⟩ stop (Nat.le_of_succ_le_succ hfuel)
            (by rw [hsubsec]; omega) (by dsimp only; omega), Nat.add_assoc]

end Reader

section Writing

/-- A part with a name that has a plural. -/
def Part.plural (count : Nat) (unit : Unit) (name : String)
    (hone : Unit.ofName? (name ++ "") = some unit) (hmany : Unit.ofName? (name ++ "s") = some unit)
    (hletters : (name ++ "s").toList.all Reader.isUnitLetter = true) : Part where
  count := count
  unit := unit
  name := name ++ (if count = 1 then "" else "s")
  names := by
    by_cases h : count = 1
    · rw [if_pos h]
      exact hone
    · rw [if_neg h]
      exact hmany
  letters := by
    by_cases h : count = 1
    · rw [if_pos h, String.append_empty]
      rw [String.toList_append, List.all_append, Bool.and_eq_true] at hletters
      exact hletters.1
    · rw [if_neg h]
      exact hletters

/-- A part, unless it is zero. -/
def Part.shown (p : Part) : List Part :=
  if p.count = 0 then [] else [p]

/-- Parts with these numbers, the longest units first. -/
def listed (years months days hours minutes secs millis micros nanos : Nat) : List Part :=
  (Part.plural years .year "year" (by decide) (by decide) (by decide)).shown ++
    (Part.plural months .month "month" (by decide) (by decide) (by decide)).shown ++
    (Part.plural days .day "day" (by decide) (by decide) (by decide)).shown ++
    (Part.mk hours .hour "h" (by decide) (by decide)).shown ++
    (Part.mk minutes .minute "m" (by decide) (by decide)).shown ++
    (Part.mk secs .second "s" (by decide) (by decide)).shown ++
    (Part.mk millis .millisecond "ms" (by decide) (by decide)).shown ++
    (Part.mk micros .microsecond "us" (by decide) (by decide)).shown ++
    (Part.mk nanos .nanosecond "ns" (by decide) (by decide)).shown

/-- The parts of a span. -/
def found (span : Span) : List Part :=
  let inYear := span.secs % 31557600
  let inMonth := inYear % 2630016
  let inDay := inMonth % 86400
  listed (span.secs / 31557600) (inYear / 2630016) (inMonth / 86400) (inDay / 3600)
    (inDay % 3600 / 60) (inDay % 60) (span.subsec / 1000000) (span.subsec / 1000 % 1000)
    (span.subsec % 1000)

theorem totalSecs_append (front back : List Part) :
    totalSecs (front ++ back) = totalSecs front + totalSecs back := by
  rw [totalSecs, List.map_append, List.sum_append]
  rfl

theorem totalBelow_append (front back : List Part) :
    totalBelow (front ++ back) = totalBelow front + totalBelow back := by
  rw [totalBelow, List.map_append, List.sum_append]
  rfl

/-- A part that is left out is zero. -/
theorem totalSecs_shown (p : Part) : totalSecs p.shown = p.count * p.unit.seconds := by
  unfold Part.shown
  by_cases h : p.count = 0
  · rw [if_pos h, h, Nat.zero_mul]
    rfl
  · rw [if_neg h]
    exact Nat.add_zero _

theorem totalBelow_shown (p : Part) : totalBelow p.shown = p.count * p.unit.below := by
  unfold Part.shown
  by_cases h : p.count = 0
  · rw [if_pos h, h, Nat.zero_mul]
    rfl
  · rw [if_neg h]
    exact Nat.add_zero _

theorem map_text_shown (p : Part) :
    p.shown.map Part.text = if p.count = 0 then [] else [toString p.count ++ p.name] := by
  unfold Part.shown
  by_cases h : p.count = 0
  · rw [if_pos h, if_pos h]
    rfl
  · rw [if_neg h, if_neg h]
    rfl

section Listed

variable (years months days hours minutes secs millis micros nanos : Nat)

theorem totalSecs_listed :
    totalSecs (listed years months days hours minutes secs millis micros nanos)
      = years * 31557600 + months * 2630016 + days * 86400 + hours * 3600 + minutes * 60
        + secs := by
  simp only [listed, totalSecs_append, totalSecs_shown, Part.plural, Unit.seconds]
  omega

theorem totalBelow_listed :
    totalBelow (listed years months days hours minutes secs millis micros nanos)
      = millis * 1000000 + micros * 1000 + nanos := by
  simp only [listed, totalBelow_append, totalBelow_shown, Part.plural, Unit.below]
  omega

end Listed

variable (span : Span)

/-- The writer writes the parts that are found. -/
theorem parts_eq : span.parts = (found span).map Part.text := by
  simp only [parts, found, listed, named, short, List.map_append, map_text_shown, Part.plural,
    String.append_assoc]

/-- The parts of a span add up to it: what one unit leaves over goes to the next. -/
theorem totalSecs_found : totalSecs (found span) = span.secs := by
  unfold found
  rw [totalSecs_listed]
  omega

theorem totalBelow_found : totalBelow (found span) = span.subsec := by
  unfold found
  rw [totalBelow_listed]
  omega

theorem total_found : total (found span) = span.nanos := by
  rw [total_eq, totalSecs_found, totalBelow_found]
  unfold secs subsec
  omega

/-- The parts that are written for a span. Those of no time at all are zero seconds. -/
def textParts : List Part :=
  if span.nanos = 0 then [Part.mk 0 .second "s" (by decide) (by decide)] else found span

theorem toList_text : span.text.toList = written (textParts span) := by
  unfold text textParts
  by_cases h : span.nanos = 0
  · rw [if_pos h, if_pos h]
    rfl
  · rw [if_neg h, if_neg h, String.toList_intercalate, parts_eq, List.map_map]
    rfl

theorem total_textParts : total (textParts span) = span.nanos := by
  unfold textParts
  by_cases h : span.nanos = 0
  · rw [if_pos h, h]
    rfl
  · rw [if_neg h, total_found]

theorem totalBelow_textParts : totalBelow (textParts span) = span.subsec := by
  unfold textParts
  by_cases h : span.nanos = 0
  · rw [if_pos h, subsec, h]
    rfl
  · rw [if_neg h, totalBelow_found]

/-- There is a part at least. -/
theorem exists_textParts : ∃ p others, textParts span = p :: others := by
  cases hparts : textParts span with
  | nil =>
      -- Without a part there would be no time, and then there is one.
      have htotal := total_textParts span
      rw [hparts] at htotal
      have hzero : span.nanos = 0 := htotal.symm
      rw [textParts, if_pos hzero] at hparts
      exact absurd hparts (List.cons_ne_nil _ _)
  | cons p others => exact ⟨p, others, rfl⟩

end Writing

namespace Reader

/-- There is a character at least for each part, so the reader comes to the end. -/
theorem length_le_written (parts : List Part) : parts.length ≤ (written parts).length := by
  induction parts with
  | nil => exact Nat.le_refl 0
  | cons p others ih =>
      rcases p.exists_digit with ⟨c, rest, htext, -⟩
      rcases written_cons p others with ⟨back, hwritten, hback⟩
      rw [hwritten, htext, List.length_append, List.length_cons, List.length_cons]
      rcases hback with ⟨hnil, hothers⟩ | hback
      · rw [hothers] at ih
        have hzero : others.length = 0 := Nat.le_zero.mp ih
        omega
      · rw [hback, List.length_cons]
        omega

/-- What is written for a part and others is neither a bare zero nor blank. -/
theorem written_cons_plain (p : Part) (others : List Part) :
    written (p :: others) ≠ ['0'] ∧ (written (p :: others)).all Text.isBlank = false := by
  rcases written_cons p others with ⟨back, hwritten, -⟩
  rcases p.exists_digit with ⟨c, rest, htext, hdigit⟩
  constructor
  · intro hzero
    -- There is a digit at least, and a letter behind it.
    rcases p.exists_name with ⟨letter, letters, hname⟩
    have hlength := congrArg List.length hzero
    rw [hwritten, p.toList_text, hname] at hlength
    have hdigits : 0 < (Nat.toDigits 10 p.count).length :=
      List.length_pos_iff.mpr Nat.toDigits_ne_nil
    simp only [List.length_append, List.length_cons, List.length_nil] at hlength
    omega
  · rw [hwritten, htext, List.cons_append, List.all_cons, isBlank_of_isDigit c hdigit,
      Bool.false_and]

end Reader

/-- A written span reads back. -/
theorem read_text (span : Span) (h : span.secs < 0x10000000000000000) :
    read span.text = .ok span := by
  rcases exists_textParts span with ⟨p, others, hparts⟩
  have hlist := toList_text span
  have hplain := Reader.written_cons_plain p others
  rw [← hparts, ← hlist] at hplain
  have hzero : ¬ span.text = "0" := by
    intro htext
    rw [htext] at hplain
    exact hplain.1 rfl
  have hfuel := Reader.length_le_written (textParts span)
  have hbelow : zero.subsec + totalBelow (textParts span) < 1000000000 := by
    have hnone : zero.subsec = 0 := rfl
    rw [totalBelow_textParts, hnone, Nat.zero_add]
    exact Nat.mod_lt _ (by decide)
  have hfits : zero.nanos + total (textParts span) < 0x10000000000000000 * 1000000000 := by
    have hnone : zero.nanos = 0 := rfl
    rw [total_textParts, hnone, Nat.zero_add]
    unfold secs at h
    omega
  unfold read
  rw [if_neg hzero, hplain.2, if_neg Bool.false_ne_true, ← String.length_toList, hlist,
    Reader.items_written _ _ _ _ hfuel hbelow hfits, total_textParts]
  exact congrArg (fun n => Except.ok (Span.mk n)) (Nat.zero_add _)

end Span

/-- The line of a scenario, up to its time. -/
def RunStatistics.head (r : RunStatistics) : String :=
  r.name ++ ": " ++ toString r.vus ++ " VUs, " ++ toString r.iterations ++
    " complete iterations in "

/-- The time that a scenario prints can be given as the length of a run. It is the time
that it took, cut to whole milliseconds, so two scenarios print the same time exactly if
they took equally many milliseconds. -/
theorem RunStatistics.elapsed_readable (r : RunStatistics)
    (hr : r.elapsed.millis < 0x10000000000000000) :
    ∃ t, r.text = r.head ++ t ∧
      Setting.read .duration t = .ok (Span.ofMillis r.elapsed.millis) ∧
      ∀ s : RunStatistics, s.elapsed.millis < 0x10000000000000000 →
        ∀ u, s.text = s.head ++ u → (t = u ↔ r.elapsed.millis = s.elapsed.millis) := by
  have hread : ∀ n, n < 0x10000000000000000 →
      Span.read (Span.ofMillis n).text = .ok (Span.ofMillis n) := by
    intro n hn
    refine Span.read_text _ ?_
    unfold Span.secs Span.ofMillis
    dsimp only
    omega
  have htext : ∀ q : RunStatistics, q.elapsed.millis < 0x10000000000000000 →
      q.text = q.head ++ (Span.ofMillis q.elapsed.millis).text := by
    intro q hq
    rw [RunStatistics.text, Nat.mod_eq_of_lt hq]
    rfl
  refine ⟨(Span.ofMillis r.elapsed.millis).text, htext r hr, ?_, ?_⟩
  · change Setting.readSpan _ = _
    rw [Setting.readSpan, hread _ hr]
    rfl
  · intro s hs u hu
    rw [htext s hs, String.append_right_inj] at hu
    subst hu
    constructor
    · intro h
      -- What is printed is read in one way only.
      have hspan := (hread _ hr).symm.trans ((congrArg Span.read h).trans (hread _ hs))
      have hnanos := congrArg Span.nanos (Except.ok.inj hspan)
      unfold Span.ofMillis at hnanos
      dsimp only at hnanos
      omega
    · intro h
      rw [h]

/-- The longest time that is printed in full is 584 million years. -/
theorem RunStatistics.elapsed_readable_longest :
    let r : RunStatistics := ⟨"dataset", 1, 0, ⟨18446744073709551615999999⟩⟩
    r.elapsed.millis < 0x10000000000000000 ∧
      r.text = r.head ++ "584542046years 1month 2days 15h 52m 15s 615ms" ∧
      Setting.read .duration "584542046years 1month 2days 15h 52m 15s 615ms"
        = .ok (Span.ofMillis 18446744073709551615) := by
  intro r
  have hr : r.elapsed.millis < 0x10000000000000000 := by decide
  have htext : r.text = r.head ++ "584542046years 1month 2days 15h 52m 15s 615ms" := by decide
  rcases RunStatistics.elapsed_readable r hr with ⟨t, ht, hread, -⟩
  have hmillis : r.elapsed.millis = 18446744073709551615 := by decide
  rw [htext, String.append_right_inj] at ht
  rw [hmillis, ← ht] at hread
  exact ⟨hr, htext, hread⟩

end PageSweep
