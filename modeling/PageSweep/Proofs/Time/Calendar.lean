import Mathlib.Tactic.IntervalCases
import PageSweep.Time.Calendar

/-!
# The Calendar Counts Days

The day number of a date is computed by a formula. Here it is compared with what a
calendar is: years of 365 or 366 days, months of their lengths, and one day after the
other. Adding up the lengths of the years and months before a date gives its number,
from year 0 on.

The way back takes the number apart into cycles: 400 years, a century, four years, a year
that begins in March, a day. A century is a day too short for its 25 cycles of four years,
and four years are a day too long for four years, so the last cycle and the last year of
their kind are treated as exceptions. `exists_cycles` finds the parts once, and the
formula is evaluated on them.

## Main definitions

* `Date.yearLength`: The number of days of a year.
* `Date.yearsBefore`, `Date.monthsBefore`: The days of the years and months before.
* `Date.elapsed`: The days from the beginning of year 0 to a date.
* `Date.IsCycle`: A day of 400 years, taken apart into its cycles.
* `Date.ofMarch`: The date of a day of a year that begins in March.

## Theorems

* `number_eq_elapsed`: The number of a date counts days.
* `number_in_year`, `number_lt_month`: A date lies in its year and in its month.
* `number_lt_of_year`, `number_lt_of_month`: Later dates have greater numbers.
* `number_ofNumber`: The date of a day number has that number.
* `valid_ofNumber`: The calendar has the date of every day number.
* `year_ofNumber_bounds`: A day lies in the year of its date.
-/

namespace PageSweep

namespace Date

/-- The number of days of a year. -/
def yearLength (year : Int) : Nat :=
  if isLeap year then 366 else 365

/-- The days from the beginning of year 0 to the beginning of a year. -/
def yearsBefore : Nat → Nat
  | 0 => 0
  | year + 1 => yearsBefore year + yearLength year

/-- The days of a year before its month `month + 1`. -/
def monthsBefore (year : Int) : Nat → Nat
  | 0 => 0
  | month + 1 => monthsBefore year month + monthLength year (month + 1)

/-- The days from the beginning of year 0 to a date. -/
def elapsed (d : Date) : Nat :=
  yearsBefore d.year.toNat + monthsBefore d.year (d.month - 1) + (d.day - 1)

theorem isLeap_iff (year : Int) :
    isLeap year = true ↔ year % 4 = 0 ∧ (year % 100 ≠ 0 ∨ year % 400 = 0) := by
  simp only [isLeap, Bool.and_eq_true, Bool.or_eq_true, decide_eq_true_eq, bne_iff_ne, ne_eq]

theorem monthLength_le (year : Int) (month : Nat) : monthLength year month ≤ 31 := by
  unfold monthLength
  split
  · split
    all_goals omega
  · split
    all_goals omega

/-- January and February belong to the year that began in March before. -/
theorem number_of_le (year : Int) (month day : Nat) (h : month ≤ 2) :
    number ⟨year, month, day⟩
      = 365 * (year - 1) + (year - 1) / 4 - (year - 1) / 100 + (year - 1) / 400
        + ((153 * (month + 9) + 2) / 5 + day - 1) - 719468 := by
  simp only [number, if_pos h]

theorem number_march (year : Int) (month day : Nat) :
    number ⟨year, month + 3, day⟩
      = 365 * year + year / 4 - year / 100 + year / 400
        + ((153 * month + 2) / 5 + day - 1) - 719468 := by
  have h : ¬ month + 3 ≤ 2 := by omega
  have hmonth : ((month + 3 : Nat) : Int) - 3 = month := by omega
  simp only [number, if_neg h, hmonth]

/-- From March on, the months repeat a pattern of 153 days in five months. -/
theorem monthLength_march (year : Int) (month : Nat) (h : month ≤ 9) :
    (monthLength year (month + 3) : Int)
      = (153 * ((month : Int) + 1) + 2) / 5 - (153 * month + 2) / 5 := by
  interval_cases month
  all_goals rfl

section Elapsed

theorem number_month_succ (year : Int) (month : Nat) (hlow : 1 ≤ month) (hhigh : month < 12) :
    number ⟨year, month + 1, 1⟩ = number ⟨year, month, 1⟩ + monthLength year month := by
  by_cases hmarch : 3 ≤ month
  · obtain ⟨m, rfl⟩ := Nat.exists_eq_add_of_le' hmarch
    have hhere := number_march year m 1
    have hnext := number_march year (m + 1) 1
    rw [Nat.add_right_comm] at hnext
    rw [hnext, hhere, monthLength_march year m (by omega)]
    push_cast
    omega
  by_cases hjanuary : month = 1
  · have hlength : monthLength year 1 = 31 := rfl
    rw [hjanuary, hlength, number_of_le year 2 1 (by decide), number_of_le year 1 1 (by decide)]
    push_cast
    omega
  · -- February is the last month of the year that began in March before.
    have hfebruary : month = 2 := by omega
    have hmarch := number_march year 0 1
    have hleap := isLeap_iff year
    rw [hfebruary, monthLength, if_pos rfl, number_of_le year 2 1 (by decide), hmarch]
    by_cases h : isLeap year = true
    · have hyear := hleap.mp h
      rw [if_pos h]
      push_cast
      omega
    · have hyear := mt hleap.mpr h
      rw [if_neg h]
      push_cast
      omega

theorem number_december (year : Int) :
    number ⟨year + 1, 1, 1⟩ = number ⟨year, 12, 1⟩ + 31 := by
  have hdecember := number_march year 9 1
  rw [number_of_le (year + 1) 1 1 (by decide), hdecember]
  push_cast
  omega

theorem number_year_succ (year : Int) :
    number ⟨year + 1, 1, 1⟩ = number ⟨year, 1, 1⟩ + yearLength year := by
  have hleap := isLeap_iff year
  rw [number_of_le (year + 1) 1 1 (by decide), number_of_le year 1 1 (by decide), yearLength]
  by_cases h : isLeap year = true
  · have hyear := hleap.mp h
    rw [if_pos h]
    push_cast
    omega
  · have hyear := mt hleap.mpr h
    rw [if_neg h]
    push_cast
    omega

theorem number_day (d : Date) : d.number = number ⟨d.year, d.month, 1⟩ + d.day - 1 := by
  simp only [number]
  omega

theorem number_yearsBefore (year : Nat) :
    number ⟨year, 1, 1⟩ = (yearsBefore year : Int) - 719528 := by
  induction year with
  | zero => rfl
  | succ year ih =>
      have hstep := number_year_succ (year : Int)
      rw [yearsBefore]
      push_cast at hstep ih ⊢
      omega

theorem number_monthsBefore (year : Int) (month : Nat) (hhigh : month < 12) :
    number ⟨year, month + 1, 1⟩ = number ⟨year, 1, 1⟩ + monthsBefore year month := by
  induction month with
  | zero => rw [monthsBefore, Int.natCast_zero, Int.add_zero]
  | succ month ih =>
      have hstep := number_month_succ year (month + 1) (by omega) hhigh
      have hbefore := ih (by omega)
      rw [monthsBefore]
      push_cast
      omega

theorem elapsed_epoch : elapsed ⟨1970, 1, 1⟩ = 719528 := by
  have hyears := number_yearsBefore 1970
  have hepoch : number ⟨(1970 : Nat), 1, 1⟩ = 0 := by decide
  rw [hepoch] at hyears
  have hyear : (1970 : Int).toNat = 1970 := rfl
  rw [elapsed, hyear]
  simp only [Nat.sub_self, monthsBefore, Nat.add_zero]
  omega

/-- The number of a date counts the days since the first one of 1970. -/
theorem number_eq_elapsed (d : Date) (hvalid : d.Valid) (hyear : 0 ≤ d.year) :
    d.number = (elapsed d : Int) - elapsed ⟨1970, 1, 1⟩ := by
  rcases d with ⟨year, month, day⟩
  rcases hvalid with ⟨hlow, hhigh, hday, -⟩
  simp only at hlow hhigh hday hyear
  have hmonth : month = month - 1 + 1 := by omega
  have hyears := number_yearsBefore year.toNat
  have hmonths := number_monthsBefore year (month - 1) (by omega)
  rw [Int.toNat_of_nonneg hyear] at hyears
  rw [← hmonth] at hmonths
  rw [number_day, hmonths, hyears, elapsed_epoch]
  simp only [elapsed]
  omega

end Elapsed

section Order

variable (d e : Date)

theorem number_month_mono (year : Int) {m n : Nat} (hlow : 1 ≤ m) (hle : m ≤ n) (hhigh : n ≤ 12) :
    number ⟨year, m, 1⟩ ≤ number ⟨year, n, 1⟩ := by
  induction n with
  | zero => omega
  | succ n ih =>
      by_cases hlast : m = n + 1
      · rw [hlast]
      · have hstep := number_month_succ year n (by omega) (by omega)
        have hbefore := ih (by omega) (by omega)
        omega

theorem number_year_mono (m n : Int) (hle : m ≤ n) : number ⟨m, 1, 1⟩ ≤ number ⟨n, 1, 1⟩ := by
  have hjanuary : (1 : Nat) ≤ 2 := by decide
  simp only [number, if_pos hjanuary]
  omega

/-- A date lies in its month. -/
theorem number_lt_month (hvalid : d.Valid) (hmonth : d.month < 12) :
    d.number < number ⟨d.year, d.month + 1, 1⟩ := by
  rw [number_month_succ d.year d.month hvalid.1 hmonth, number_day d]
  have hlast := hvalid.2.2.2
  omega

/-- A date lies in its year. -/
theorem number_in_year (hvalid : d.Valid) :
    number ⟨d.year, 1, 1⟩ ≤ d.number ∧ d.number < number ⟨d.year + 1, 1, 1⟩ := by
  rcases hvalid with ⟨hlow, hhigh, hday, hlast⟩
  have hnumber := number_day d
  have hfirst := number_month_mono d.year (Nat.le_refl 1) hlow hhigh
  have hafter := number_month_mono d.year hlow hhigh (Nat.le_refl 12)
  have hdecember := number_december d.year
  refine ⟨by omega, ?_⟩
  by_cases hmonth : d.month = 12
  · have hlength : monthLength d.year d.month = 31 := by
      rw [hmonth]
      rfl
    rw [hmonth] at hnumber
    omega
  · have hnext := number_lt_month d ⟨hlow, hhigh, hday, hlast⟩ (by omega)
    have hrest := number_month_mono d.year (m := d.month + 1) (n := 12) (by omega) (by omega)
      (Nat.le_refl 12)
    omega

theorem number_lt_of_year (hd : d.Valid) (he : e.Valid) (h : d.year < e.year) :
    d.number < e.number := by
  have hbefore := (number_in_year d hd).2
  have hafter := (number_in_year e he).1
  have hyears := number_year_mono (d.year + 1) e.year (by omega)
  omega

theorem number_lt_of_month (hd : d.Valid) (he : e.Valid) (hyear : d.year = e.year)
    (h : d.month < e.month) : d.number < e.number := by
  have hhigh := he.2.1
  have hday := he.2.2.1
  have hbefore := number_lt_month d hd (by omega)
  have hmonths := number_month_mono d.year (m := d.month + 1) (n := e.month) (by omega) h hhigh
  have hafter := number_day e
  rw [hyear] at hbefore hmonths
  omega

theorem number_lt_of_day (hyear : d.year = e.year) (hmonth : d.month = e.month)
    (h : d.day < e.day) : d.number < e.number := by
  have hbefore := number_day d
  have hafter := number_day e
  rw [hyear, hmonth] at hbefore
  omega

end Order

section OfNumber

/-- A day of a cycle of 400 years, taken apart: its century `c`, its four years `q`, its
year `y` and its day `d`. Only the last year of four has a day 365, and not the last one
of a century but the fourth. -/
structure IsCycle (n c q y d : Int) : Prop where
  sum : n = 36524 * c + 1461 * q + 365 * y + d
  century : 0 ≤ c ∧ c ≤ 3
  four : 0 ≤ q ∧ q ≤ 24
  year : 0 ≤ y ∧ y ≤ 3
  day : 0 ≤ d ∧ d ≤ 365
  leap : d = 365 → y = 3 ∧ (q = 24 → c = 3)

theorem exists_cycles (n : Int) (hlow : 0 ≤ n) (hhigh : n < 146097) :
    ∃ c q y d, IsCycle n c q y d := by
  by_cases hlast : n = 146096
  · exact ⟨3, 24, 3, 365, by omega, by omega, by omega, by omega, by omega, by omega⟩
  · by_cases hleap : n % 36524 % 1461 = 1460
    · -- The last day of four years is one more than four times 365.
      exact ⟨n / 36524, n % 36524 / 1461, 3, 365, by omega, by omega, by omega, by omega,
        by omega, by omega⟩
    · exact ⟨n / 36524, n % 36524 / 1461, n % 36524 % 1461 / 365, n % 36524 % 1461 % 365,
        by omega, by omega, by omega, by omega, by omega, by omega⟩

/-- The formula for the year of a cycle. -/
theorem year_of_isCycle (n c q y d : Int) (h : IsCycle n c q y d) :
    (n - n / 1460 + n / 36524 - n / 146096) / 365 = 100 * c + 4 * q + y := by
  rcases h with ⟨hsum, hcentury, hfour, hyear, hday, hleap⟩
  have hdays : n / 1460 = 25 * c + q + (24 * c + q + 365 * y + d) / 1460 := by omega
  -- The last day of the cycle is the only one that lies behind its century.
  have hlast : n = 146096 ∧ c = 3 ∨ 36524 * c ≤ n ∧ n < 36524 * (c + 1) := by
    by_cases hd : d = 365
    · have hthree := hleap hd
      by_cases hq : q = 24
      · omega
      · omega
    · omega
  have hcenturies : n / 36524 - n / 146096 = c := by omega
  have hcarry : (24 * c + q + 365 * y + d) / 1460 = 0 ∨
      (24 * c + q + 365 * y + d) / 1460 = 1 := by omega
  omega

/-- The day of the year is what is left of the cycle after its years. -/
theorem day_of_isCycle (n c q y d : Int) (h : IsCycle n c q y d) :
    n - (365 * (100 * c + 4 * q + y) + (100 * c + 4 * q + y) / 4
      - (100 * c + 4 * q + y) / 100) = d := by
  rcases h with ⟨hsum, hcentury, hfour, hyear, hday, -⟩
  have hfours : (100 * c + 4 * q + y) / 4 = 25 * c + q := by omega
  have hcenturies : (100 * c + 4 * q + y) / 100 = c := by omega
  omega

/-- The year after the last one of four has a leap day, if there is a day for it. -/
theorem isLeap_of_isCycle (n c q y era : Int) (h : IsCycle n c q y 365) :
    isLeap (100 * c + 4 * q + y + era * 400 + 1) = true := by
  rcases h with ⟨-, -, hfour, -, -, hleap⟩
  rcases hleap rfl with ⟨rfl, hlast⟩
  rw [isLeap_iff]
  refine ⟨by omega, ?_⟩
  by_cases hq : q = 24
  · rw [hq, hlast hq]
    exact Or.inr (by omega)
  · exact Or.inl (by omega)

/-- The days up to a day of a cycle, of all the cycles before it and its own years. -/
theorem sum_of_isCycle (n c q y d era : Int) (h : IsCycle n c q y d) :
    365 * (100 * c + 4 * q + y + era * 400) + (100 * c + 4 * q + y + era * 400) / 4
      - (100 * c + 4 * q + y + era * 400) / 100 + (100 * c + 4 * q + y + era * 400) / 400 + d
      = 146097 * era + n := by
  rcases h with ⟨hsum, hcentury, hfour, hyear, hday, -⟩
  have hfours : (100 * c + 4 * q + y + era * 400) / 4 = 25 * c + q + 100 * era := by omega
  have hcenturies : (100 * c + 4 * q + y + era * 400) / 100 = c + 4 * era := by omega
  have heras : (100 * c + 4 * q + y + era * 400) / 400 = era := by omega
  omega

/-- Day `d` of the year that begins in March of `year`. -/
def ofMarch (year d : Int) : Date :=
  let month := (5 * d + 2) / 153
  let day := d - (153 * month + 2) / 5 + 1
  if month < 10 then ⟨year, (month + 3).toNat, day.toNat⟩
  else ⟨year + 1, (month - 9).toNat, day.toNat⟩

theorem ofNumber_eq_ofMarch (n : Int) :
    ∃ year d : Int, ofNumber n = ofMarch year d ∧ 0 ≤ d ∧ d ≤ 365 ∧
      (d = 365 → isLeap (year + 1) = true) ∧
      365 * year + year / 4 - year / 100 + year / 400 + d = n + 719468 := by
  have hlow : 0 ≤ (n + 719468) % 146097 := Int.emod_nonneg _ (by decide)
  have hhigh : (n + 719468) % 146097 < 146097 := Int.emod_lt_of_pos _ (by decide)
  rcases exists_cycles _ hlow hhigh with ⟨c, q, y, d, h⟩
  refine ⟨100 * c + 4 * q + y + (n + 719468) / 146097 * 400, d, ?_, h.day.1, h.day.2, ?_, ?_⟩
  · simp only [ofNumber, ofMarch, year_of_isCycle _ c q y d h, day_of_isCycle _ c q y d h]
  · rintro rfl
    exact isLeap_of_isCycle _ c q y _ h
  · rw [sum_of_isCycle _ c q y d _ h, Int.mul_ediv_add_emod]

/-- The months of a year that begins in March: up to December and after. -/
theorem ofMarch_cases (year d : Int) (hlow : 0 ≤ d) (hhigh : d ≤ 365) :
    (∃ m day : Nat, ofMarch year d = ⟨year, m + 3, day⟩ ∧ m ≤ 9 ∧ 1 ≤ day ∧
      (d : Int) = (153 * m + 2) / 5 + day - 1 ∧ d < (153 * (m + 1) + 2) / 5) ∨
    (∃ m day : Nat, ofMarch year d = ⟨year + 1, m + 1, day⟩ ∧ m ≤ 1 ∧ 1 ≤ day ∧
      (d : Int) = 306 + 31 * m + day - 1 ∧ (m = 0 → day ≤ 31)) := by
  unfold ofMarch
  have hmonth : 0 ≤ (5 * d + 2) / 153 := by omega
  obtain ⟨m, hm⟩ := Int.eq_ofNat_of_zero_le hmonth
  obtain ⟨day, hday⟩ := Int.eq_ofNat_of_zero_le
    (a := d - (153 * m + 2) / 5 + 1) (by omega)
  simp only [hm, hday]
  by_cases hmarch : (m : Int) < 10
  · rw [if_pos hmarch]
    exact Or.inl ⟨m, day, rfl, by omega, by omega, by omega, by omega⟩
  · have hshift : ((m : Int) - 9).toNat = m - 10 + 1 := by omega
    rw [if_neg hmarch, hshift]
    have hlast : m = 10 ∨ m = 11 := by omega
    refine Or.inr ⟨m - 10, day, rfl, by omega, by omega, ?_, ?_⟩
    · rcases hlast with rfl | rfl
      all_goals omega
    · intro hjanuary
      rcases hlast with rfl | rfl
      all_goals omega

theorem valid_ofMarch (year d : Int) (hlow : 0 ≤ d) (hhigh : d ≤ 365)
    (hleap : d = 365 → isLeap (year + 1) = true) : (ofMarch year d).Valid := by
  rcases ofMarch_cases year d hlow hhigh with ⟨m, day, hdate, hm, hday, hd, hlast⟩
    | ⟨m, day, hdate, hm, hday, hd, hlast⟩
  · rw [hdate]
    have hlength := monthLength_march year m hm
    refine ⟨Nat.le_add_left 1 _, Nat.add_le_add_right hm 3, hday, ?_⟩
    simp only
    omega
  · rw [hdate]
    refine ⟨Nat.le_add_left 1 m, by simp only; omega, hday, ?_⟩
    simp only
    by_cases hjanuary : m = 0
    · rw [hjanuary]
      exact hlast hjanuary
    · have hfebruary : m = 1 := by omega
      rw [hfebruary, monthLength, if_pos rfl]
      by_cases h : isLeap (year + 1) = true
      · rw [if_pos h]
        omega
      · have hshort : d ≠ 365 := fun hd => h (hleap hd)
        rw [if_neg h]
        omega

theorem number_ofMarch (year d : Int) (hlow : 0 ≤ d) (hhigh : d ≤ 365) :
    (ofMarch year d).number
      = 365 * year + year / 4 - year / 100 + year / 400 + d - 719468 := by
  rcases ofMarch_cases year d hlow hhigh with ⟨m, day, hdate, -, -, hd, -⟩
    | ⟨m, day, hdate, hm, -, hd, -⟩
  · rw [hdate, number_march, ← hd]
  · rw [hdate, number_of_le _ _ _ (by omega), Int.add_sub_cancel, hd]
    push_cast
    omega

/-- The date of a day number has that number. -/
theorem number_ofNumber (n : Int) : (ofNumber n).number = n := by
  rcases ofNumber_eq_ofMarch n with ⟨year, d, hdate, hlow, hhigh, -, hn⟩
  rw [hdate, number_ofMarch year d hlow hhigh, hn, Int.add_sub_cancel]

/-- The calendar has the date of every day number. -/
theorem valid_ofNumber (n : Int) : (ofNumber n).Valid := by
  rcases ofNumber_eq_ofMarch n with ⟨year, d, hdate, hlow, hhigh, hleap, -⟩
  rw [hdate]
  exact valid_ofMarch year d hlow hhigh hleap

/-- A day lies in the year of its date and in no other. -/
theorem year_ofNumber_bounds (n first last : Int) (hfirst : number ⟨first, 1, 1⟩ ≤ n)
    (hlast : n < number ⟨last, 1, 1⟩) : first ≤ (ofNumber n).year ∧ (ofNumber n).year < last := by
  rcases number_in_year (ofNumber n) (valid_ofNumber n) with ⟨hlow, hhigh⟩
  rw [number_ofNumber] at hlow hhigh
  constructor
  · by_contra hlt
    have hyears := number_year_mono ((ofNumber n).year + 1) first (by omega)
    omega
  · by_contra hge
    have hyears := number_year_mono last (ofNumber n).year (by omega)
    omega

end OfNumber

end Date

end PageSweep
