import Mathlib.Data.List.Lex
import PageSweep.Proofs.Text.Digits
import PageSweep.Proofs.Text.Order
import PageSweep.Proofs.Time.Calendar

/-!
# Written Instants

An instant is written in fields, the year first and the milliseconds last, each with its
full width. So the order of two written instants is decided by the first field in which
they differ, and the same field decides which instant is earlier: a later year begins
after every day of an earlier one, a later month after every day of an earlier month, and
so on down to the millisecond.

What is written is described by its fields, apart from the way the fields are found.
`textOf` finds them by dividing a count of nanoseconds; a stamp counts its milliseconds by
the days that the calendar has before its date.

## Main definitions

* `Stamp`: The fields of a written instant.
* `Stamp.Valid`: The calendar has its date and the clock its time.
* `Stamp.chars`: The 24 characters of a stamp.
* `Stamp.millis`: The milliseconds from the start of 1970 to a stamp.
* `Instant.Year`: The instants with a year of four digits.
* `Instant.Writes`: A text is the stamp of an instant, down to the millisecond.

## Theorems

* `chars_lt`: Stamps are ordered as their fields are.
* `millis_lt`: So are the milliseconds they count.
* `readMillis?_chars`: A stamp reads back.
* `writes_textOf`: An instant with a year of four digits is written as its stamp.
* `Writes.le`: Texts are ordered as their instants are.
-/

namespace PageSweep

/-- The fields of a written instant. -/
structure Stamp where
  date : Date
  hour : Nat
  minute : Nat
  second : Nat
  milli : Nat
  deriving DecidableEq, Repr

namespace Stamp

/-- The calendar has the date, in a year of four digits, and the clock has the time. -/
structure Valid (s : Stamp) : Prop where
  date : s.date.Valid
  year : 0 ≤ s.date.year ∧ s.date.year ≤ 9999
  hour : s.hour < 24
  minute : s.minute < 60
  second : s.second < 60
  milli : s.milli < 1000

/-- The numbers of a stamp, the largest unit first. -/
def fields (s : Stamp) : List Nat :=
  [s.date.year.toNat, s.date.month, s.date.day, s.hour, s.minute, s.second, s.milli]

/-- The form `YYYY-MM-DDTHH:MM:SS.mmmZ`: the width of each field and the mark behind it. -/
def form : List (Nat × Char) :=
  [(4, '-'), (2, '-'), (2, 'T'), (2, ':'), (2, ':'), (2, '.'), (3, 'Z')]

/-- Writes numbers in fields. -/
def written : List (Nat × Char) → List Nat → List Char
  | (width, mark) :: form, n :: numbers => Numeral.fixed width n ++ mark :: written form numbers
  | _, _ => []

/-- The characters of a stamp. -/
def chars (s : Stamp) : List Char :=
  written form s.fields

/-- The milliseconds of the day. -/
def clock (s : Stamp) : Nat :=
  ((s.hour * 60 + s.minute) * 60 + s.second) * 1000 + s.milli

/-- The milliseconds from the start of 1970. -/
def millis (s : Stamp) : Int :=
  ((s.date.elapsed : Int) - Date.elapsed ⟨1970, 1, 1⟩) * 86400000 + s.clock

section Order

/-- Each number has room in its field. -/
inductive Fits : List (Nat × Char) → List Nat → Prop where
  | nil : Fits [] []
  | cons (width : Nat) (mark : Char) (form : List (Nat × Char)) (n : Nat) (numbers : List Nat)
      (room : n < 10 ^ width) (rest : Fits form numbers) :
      Fits ((width, mark) :: form) (n :: numbers)

theorem written_lt (form : List (Nat × Char)) (m n : List Nat) (hn : Fits form n)
    (hlength : m.length = n.length) (hlt : m < n) : written form m < written form n := by
  induction hn generalizing m with
  | nil => exact absurd hlt (List.not_lt_nil m)
  | cons width mark form n numbers room rest ih =>
      cases m with
      | nil => exact absurd hlength (by simp only [List.length_nil, List.length_cons]; omega)
      | cons m others =>
          rw [List.length_cons, List.length_cons] at hlength
          rcases List.cons_lt_cons_iff.mp hlt with h | ⟨rfl, h⟩
          · exact Numeral.fixed_lt width m n h room _ _
          · apply List.append_left_lt
            exact List.cons_lt_cons_iff.mpr (Or.inr ⟨rfl, ih others (by omega) h⟩)

/-- Every number of a stamp has room in its field. -/
theorem room (s : Stamp) (h : s.Valid) :
    s.date.year.toNat < 10 ^ 4 ∧ s.date.month < 10 ^ 2 ∧ s.date.day < 10 ^ 2 ∧
      s.hour < 10 ^ 2 ∧ s.minute < 10 ^ 2 ∧ s.second < 10 ^ 2 ∧ s.milli < 10 ^ 3 := by
  have hyear := h.year
  have hmonth := h.date.2.1
  have hday := h.date.2.2.2
  have hlength := Date.monthLength_le s.date.year s.date.month
  have hhour := h.hour
  have hminute := h.minute
  have hsecond := h.second
  have hmilli := h.milli
  refine ⟨?_, ?_, ?_, ?_, ?_, ?_, ?_⟩
  all_goals omega

theorem fits_fields (s : Stamp) (h : s.Valid) : Fits form s.fields := by
  rcases room s h with ⟨hyear, hmonth, hday, hhour, hminute, hsecond, hmilli⟩
  exact .cons 4 '-' _ _ _ hyear (.cons 2 '-' _ _ _ hmonth (.cons 2 'T' _ _ _ hday
    (.cons 2 ':' _ _ _ hhour (.cons 2 ':' _ _ _ hminute (.cons 2 '.' _ _ _ hsecond
    (.cons 3 'Z' _ _ _ hmilli .nil))))))

theorem chars_lt (s t : Stamp) (ht : t.Valid) (hlt : s.fields < t.fields) : s.chars < t.chars :=
  written_lt form s.fields t.fields (fits_fields t ht) rfl hlt

theorem length_chars (s : Stamp) : s.chars.length = 24 := by
  simp only [chars, form, fields, written, List.length_append, List.length_cons,
    Numeral.length_fixed, List.length_nil]

theorem clock_lt (s : Stamp) (h : s.Valid) : s.clock < 86400000 := by
  have hhour := h.hour
  have hminute := h.minute
  have hsecond := h.second
  have hmilli := h.milli
  unfold clock
  omega

theorem millis_eq (s : Stamp) (h : s.Valid) : s.millis = s.date.number * 86400000 + s.clock := by
  rw [millis, Date.number_eq_elapsed s.date h.date h.year.1]

/-- A later day is later, whatever the clocks say. -/
theorem millis_lt_of_number (s t : Stamp) (hs : s.Valid) (ht : t.Valid)
    (h : s.date.number < t.date.number) : s.millis < t.millis := by
  have hclock := clock_lt s hs
  rw [millis_eq s hs, millis_eq t ht]
  omega

theorem millis_lt_of_clock (s t : Stamp) (hdate : s.date = t.date) (h : s.clock < t.clock) :
    s.millis < t.millis := by
  rw [millis, millis, hdate]
  omega

theorem year_eq_of_toNat (s t : Stamp) (hs : s.Valid) (ht : t.Valid)
    (h : s.date.year.toNat = t.date.year.toNat) : s.date.year = t.date.year := by
  have hyear := hs.year
  have hother := ht.year
  omega

theorem date_eq (d e : Date) (hyear : d.year = e.year) (hmonth : d.month = e.month)
    (hday : d.day = e.day) : d = e := by
  cases d
  cases e
  simp only at hyear hmonth hday
  rw [hyear, hmonth, hday]

/-- The first field in which two stamps differ decides which one is earlier. -/
theorem millis_lt (s t : Stamp) (hs : s.Valid) (ht : t.Valid) (hlt : s.fields < t.fields) :
    s.millis < t.millis := by
  simp only [fields, List.cons_lt_cons_iff, List.not_lt_nil, and_false, or_false] at hlt
  -- The date differs in its year, its month or its day, or only the clocks differ.
  rcases hlt with h | ⟨hyear, h | ⟨hmonth, h | ⟨hday, hclock⟩⟩⟩
  · have hyears : s.date.year < t.date.year := by omega
    exact millis_lt_of_number s t hs ht (Date.number_lt_of_year _ _ hs.date ht.date hyears)
  · have hyears := year_eq_of_toNat s t hs ht hyear
    exact millis_lt_of_number s t hs ht (Date.number_lt_of_month _ _ hs.date ht.date hyears h)
  · have hyears := year_eq_of_toNat s t hs ht hyear
    exact millis_lt_of_number s t hs ht (Date.number_lt_of_day _ _ hyears hmonth h)
  · have hyears := year_eq_of_toNat s t hs ht hyear
    apply millis_lt_of_clock s t (date_eq _ _ hyears hmonth hday)
    have hminute := hs.minute
    have hsecond := hs.second
    have hmilli := hs.milli
    have hlast := ht.milli
    unfold clock
    omega

theorem eq_of_fields (s t : Stamp) (hs : s.Valid) (ht : t.Valid) (h : s.fields = t.fields) :
    s = t := by
  simp only [fields, List.cons.injEq, and_true] at h
  rcases h with ⟨hyear, hmonth, hday, hhour, hminute, hsecond, hmilli⟩
  have hdate := date_eq _ _ (year_eq_of_toNat s t hs ht hyear) hmonth hday
  cases s
  cases t
  simp only at hdate hhour hminute hsecond hmilli
  rw [hdate, hhour, hminute, hsecond, hmilli]

/-- The milliseconds of two stamps are ordered as their fields are, both ways. -/
theorem fields_lt_iff (s t : Stamp) (hs : s.Valid) (ht : t.Valid) :
    s.fields < t.fields ↔ s.millis < t.millis := by
  constructor
  · exact millis_lt s t hs ht
  · intro hlt
    rcases lt_trichotomy s.fields t.fields with h | h | h
    · exact h
    · rw [eq_of_fields s t hs ht h] at hlt
      exact absurd hlt (Int.lt_irrefl _)
    · exact absurd (millis_lt t s ht hs h) (Int.not_lt.mpr (Int.le_of_lt hlt))

/-- A millisecond has one stamp. -/
theorem eq_of_millis (s t : Stamp) (hs : s.Valid) (ht : t.Valid) (h : s.millis = t.millis) :
    s = t := by
  rcases lt_trichotomy s.fields t.fields with hlt | heq | hlt
  · exact absurd h (Int.ne_of_lt (millis_lt s t hs ht hlt))
  · exact eq_of_fields s t hs ht heq
  · exact absurd h.symm (Int.ne_of_lt (millis_lt t s ht hs hlt))

end Order

section Reading

theorem readMillis?_chars (s : Stamp) (h : s.Valid) :
    Instant.readMillis? s.chars = some s.millis := by
  rcases room s h with ⟨hyear, hmonth, hday, hhour, hminute, hsecond, hmilli⟩
  have hfields : Instant.readMillis? s.chars = (do
      let date : Date := ⟨← Instant.field? (Numeral.fixed 4 s.date.year.toNat),
        ← Instant.field? (Numeral.fixed 2 s.date.month),
        ← Instant.field? (Numeral.fixed 2 s.date.day)⟩
      let hour ← Instant.field? (Numeral.fixed 2 s.hour)
      let minute ← Instant.field? (Numeral.fixed 2 s.minute)
      let second ← Instant.field? (Numeral.fixed 2 s.second)
      let millis ← Instant.field? (Numeral.fixed 3 s.milli)
      if date.Valid ∧ hour < 24 ∧ minute < 60 ∧ second < 60 then
        some (date.number * 86400000 +
          (((hour * 60 + minute) * 60 + second) * 1000 + millis : Nat))
      else none) := rfl
  have hdate : (⟨(s.date.year.toNat : Int), s.date.month, s.date.day⟩ : Date) = s.date := by
    rw [Int.toNat_of_nonneg h.year.1]
  rw [hfields, Numeral.field?_fixed 4 _ hyear, Numeral.field?_fixed 2 _ hmonth,
    Numeral.field?_fixed 2 _ hday, Numeral.field?_fixed 2 _ hhour,
    Numeral.field?_fixed 2 _ hminute, Numeral.field?_fixed 2 _ hsecond,
    Numeral.field?_fixed 3 _ hmilli]
  simp only [Option.bind_eq_bind, Option.bind_some]
  rw [hdate, if_pos ⟨h.date, h.hour, h.minute, h.second⟩, millis_eq s h]
  rfl

end Reading

end Stamp

namespace Instant

/-- The instants whose year in UTC has four digits. -/
def Year (nanos : Int) : Prop :=
  Date.number ⟨0, 1, 1⟩ * dayNanos ≤ nanos ∧ nanos < Date.number ⟨10000, 1, 1⟩ * dayNanos

instance (nanos : Int) : Decidable (Year nanos) :=
  inferInstanceAs (Decidable (_ ∧ _))

/-- A text of 24 characters is a stamp, it reads back, and it counts the milliseconds of an
instant. A part of a millisecond is dropped, before 1970 too. -/
structure Writes (nanos : Int) (text : String) : Prop where
  stamp : ∃ s : Stamp, s.Valid ∧ text.toList = s.chars ∧ s.millis = nanos / 1000000
  length : text.length = 24
  reads : readMillis? text.toList = some (nanos / 1000000)

section Writing

/-- The stamp of a count of nanoseconds. -/
def stampOf (nanos : Int) : Stamp :=
  let millis := (nanos % dayNanos / 1000000).toNat
  ⟨Date.ofNumber (nanos / dayNanos), millis / 3600000, millis / 60000 % 60, millis / 1000 % 60,
    millis % 1000⟩

theorem year_ofNumber (nanos : Int) (h : Year nanos) :
    0 ≤ (Date.ofNumber (nanos / dayNanos)).year ∧
      (Date.ofNumber (nanos / dayNanos)).year ≤ 9999 := by
  have hpos : 0 < dayNanos := by decide
  have hfirst := Int.le_ediv_of_mul_le hpos h.1
  have hlast := Int.ediv_lt_of_lt_mul hpos h.2
  have hbounds := Date.year_ofNumber_bounds _ 0 10000 hfirst hlast
  exact ⟨hbounds.1, Int.le_of_lt_add_one hbounds.2⟩

theorem clock_lt (nanos : Int) : (nanos % dayNanos / 1000000).toNat < 86400000 := by
  unfold dayNanos
  omega

theorem valid_stampOf (nanos : Int) (h : Year nanos) : (stampOf nanos).Valid := by
  have hclock := clock_lt nanos
  refine ⟨Date.valid_ofNumber _, year_ofNumber nanos h, ?_, ?_, ?_, ?_⟩
  · exact Nat.div_lt_of_lt_mul hclock
  · exact Nat.mod_lt _ (by decide)
  · exact Nat.mod_lt _ (by decide)
  · exact Nat.mod_lt _ (by decide)

theorem clock_stampOf (nanos : Int) :
    ((stampOf nanos).clock : Int) = nanos % dayNanos / 1000000 := by
  unfold Stamp.clock stampOf dayNanos
  simp only
  omega

theorem millis_stampOf (nanos : Int) (h : Year nanos) :
    (stampOf nanos).millis = nanos / 1000000 := by
  rw [Stamp.millis_eq _ (valid_stampOf nanos h), clock_stampOf]
  have hnumber : (stampOf nanos).date.number = nanos / dayNanos := Date.number_ofNumber _
  rw [hnumber]
  unfold dayNanos
  omega

theorem toList_yearText (year : Int) (hlow : 0 ≤ year) (hhigh : year ≤ 9999) :
    (yearText year).toList = Numeral.fixed 4 year.toNat := by
  have hsign : ¬ year < 0 := Int.not_lt.mpr hlow
  have hnumber : year.natAbs = year.toNat := by omega
  rw [yearText, if_neg hsign, String.empty_append, hnumber,
    Numeral.padded_eq_fixed 3 _ (by omega)]

theorem toList_dateText (date : Date) (hvalid : date.Valid) (hlow : 0 ≤ date.year)
    (hhigh : date.year ≤ 9999) :
    (dateText date).toList = Numeral.fixed 4 date.year.toNat ++ '-' ::
      (Numeral.fixed 2 date.month ++ '-' :: Numeral.fixed 2 date.day) := by
  have hmonth := hvalid.2.1
  have hday := hvalid.2.2.2
  have hlength := Date.monthLength_le date.year date.month
  have hmark : "-".toList = ['-'] := rfl
  rw [dateText, String.toList_append, String.toList_append, String.toList_append,
    String.toList_append, toList_yearText date.year hlow hhigh,
    Numeral.padded_eq_fixed 1 _ (by omega), Numeral.padded_eq_fixed 1 _ (by omega), hmark]
  simp only [List.append_assoc, List.cons_append, List.nil_append]

theorem toList_clockText (millis : Nat) (h : millis < 86400000) :
    (clockText millis).toList = Numeral.fixed 2 (millis / 3600000) ++ ':' ::
      (Numeral.fixed 2 (millis / 60000 % 60) ++ ':' ::
        (Numeral.fixed 2 (millis / 1000 % 60) ++ '.' :: Numeral.fixed 3 (millis % 1000))) := by
  have hmark : ":".toList = [':'] := rfl
  have hpoint : ".".toList = ['.'] := rfl
  rw [clockText, String.toList_append, String.toList_append, String.toList_append,
    String.toList_append, String.toList_append, String.toList_append,
    Numeral.padded_eq_fixed 1 _ (by omega), Numeral.padded_eq_fixed 1 _ (by omega),
    Numeral.padded_eq_fixed 1 _ (by omega), Numeral.padded_eq_fixed 2 _ (by omega), hmark, hpoint]
  simp only [List.append_assoc, List.cons_append, List.nil_append]

theorem toList_textOf (nanos : Int) (h : Year nanos) :
    (textOf nanos).toList = (stampOf nanos).chars := by
  have hyear := year_ofNumber nanos h
  have hmark : "T".toList = ['T'] := rfl
  have hzone : "Z".toList = ['Z'] := rfl
  rw [textOf, String.toList_append, String.toList_append, String.toList_append,
    toList_dateText _ (Date.valid_ofNumber _) hyear.1 hyear.2,
    toList_clockText _ (clock_lt nanos), hmark, hzone]
  simp only [List.append_assoc, List.cons_append, List.nil_append]
  rfl

/-- An instant with a year of four digits is written as its stamp. -/
theorem writes_textOf (nanos : Int) (h : Year nanos) : Writes nanos (textOf nanos) := by
  have hvalid := valid_stampOf nanos h
  have hmillis := millis_stampOf nanos h
  refine ⟨⟨stampOf nanos, hvalid, toList_textOf nanos h, hmillis⟩, ?_, ?_⟩
  · rw [← String.length_toList, toList_textOf nanos h, Stamp.length_chars]
  · rw [toList_textOf nanos h, Stamp.readMillis?_chars _ hvalid, hmillis]

end Writing

section Order

/-- Texts are ordered as their instants are, byte by byte, and one text stands for one
millisecond. -/
theorem Writes.le (m n : Int) (a b : String) (ha : Writes m a) (hb : Writes n b) (h : m ≤ n) :
    a.toUTF8.data.toList ≤ b.toUTF8.data.toList ∧ (a = b ↔ m / 1000000 = n / 1000000) := by
  rcases ha.stamp with ⟨s, hs, htext, hmillis⟩
  rcases hb.stamp with ⟨t, ht, hother, hlater⟩
  -- A text tells its millisecond, and a millisecond has one stamp.
  have hsame : m / 1000000 = n / 1000000 → a = b := by
    intro heq
    have hstamps := Stamp.eq_of_millis s t hs ht (by omega)
    rw [← String.toList_inj, htext, hother, hstamps]
  have hread : a = b → m / 1000000 = n / 1000000 := by
    intro heq
    have hreads := ha.reads
    rw [heq, hb.reads] at hreads
    exact (Option.some.inj hreads).symm
  refine ⟨?_, hread, hsame⟩
  by_cases heq : m / 1000000 = n / 1000000
  · rw [hsame heq]
    exact List.le_refl _
  · have hfields := (Stamp.fields_lt_iff s t hs ht).mpr (by omega)
    have hchars := Stamp.chars_lt s t ht hfields
    have hlt : a < b := by
      rw [String.lt_iff, htext, hother]
      exact hchars
    exact List.le_of_lt (Utf8.toUTF8_lt a b hlt)

end Order

end Instant

end PageSweep
