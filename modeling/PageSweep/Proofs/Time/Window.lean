import PageSweep.Proofs.Time.Stamp
import PageSweep.Time.Window

/-!
# Query Windows Are Exact

A window is made from an instant by going back a number of days and writing both ends. A
day has a whole number of milliseconds, so dropping the part of a millisecond commutes
with going back: the ends that are read from the texts are as far apart as the instants
were. The place of the clock only decides whether there is a window.

## Main definitions

* `Window.Fits`: The window lies in the calendar of its clock and in years of four digits.
* `Window.ends`: The ends of a window, with the instants they stand for.

## Theorems

* `endingAt?_exact`: What is written, how it reads back, and how windows compare.
-/

namespace PageSweep

namespace Window

/-- Both ends lie in the calendar of a clock `offset` seconds ahead of UTC, and in UTC in
years of four digits. -/
structure Fits (stop : Instant) (offset : Int) (days : Nat) : Prop where
  after : Instant.Covered (stop.nanos + offset * 1000000000)
  before : Instant.Covered (stop.nanos - days * Instant.dayNanos + offset * 1000000000)
  years : Instant.Year (stop.nanos - days * Instant.dayNanos) ∧ Instant.Year stop.nanos

/-- The instants of the ends, and how they are written. -/
def ends (window : Window) (stop : Instant) (days : Nat) : List (Int × String) :=
  [(stop.nanos - days * Instant.dayNanos, window.start), (stop.nanos, window.stop)]

variable (stop : Instant) (offset : Int) (days : Nat)

theorem covered_of_year (nanos : Int) (h : Instant.Year nanos) : Instant.Covered nanos := by
  rcases h with ⟨hlow, hhigh⟩
  have hfirst : Instant.first ≤ Date.number ⟨0, 1, 1⟩ * Instant.dayNanos := by decide
  exact ⟨Int.le_trans hfirst hlow, Int.le_sub_one_of_lt hhigh⟩

theorem endingAt?_of_fits (h : Fits stop offset days) :
    endingAt? stop offset days
      = some ⟨Instant.textOf (stop.nanos - days * Instant.dayNanos), stop.text⟩ := by
  unfold endingAt?
  exact if_pos ⟨h.after, h.before, covered_of_year _ h.years.1⟩

theorem writes_of_mem_ends (window : Window) (h : Fits stop offset days)
    (hwindow : endingAt? stop offset days = some window) (x : Int × String)
    (hx : x ∈ window.ends stop days) : Instant.Writes x.1 x.2 := by
  rw [endingAt?_of_fits stop offset days h] at hwindow
  cases hwindow
  simp only [ends, List.mem_cons, List.not_mem_nil, or_false] at hx
  rcases hx with rfl | rfl
  · exact Instant.writes_textOf _ h.years.1
  · exact Instant.writes_textOf _ h.years.2

theorem start_millis (nanos : Int) :
    (nanos - days * Instant.dayNanos) / 1000000 = nanos / 1000000 - days * 86400000 := by
  unfold Instant.dayNanos
  omega

/-- A window that fits is found. Its ends are stamps of the 24-character form that read
back as the instant without the part of a millisecond, and as that many days before it.
Every clock gives the same window, and the ends of all windows are ordered as their
instants are. -/
theorem endingAt?_exact (h : Fits stop offset days) :
    ∃ window, endingAt? stop offset days = some window ∧
      (∀ x ∈ window.ends stop days, Instant.Writes x.1 x.2) ∧
      Instant.readMillis? window.stop.toList = some (stop.nanos / 1000000) ∧
      Instant.readMillis? window.start.toList
        = some (stop.nanos / 1000000 - days * 86400000) ∧
      (∀ other, Fits stop other days → endingAt? stop other days = some window) ∧
      ∀ stop' offset' days' window', Fits stop' offset' days' →
        endingAt? stop' offset' days' = some window' →
        ∀ x ∈ window.ends stop days, ∀ y ∈ window'.ends stop' days', x.1 ≤ y.1 →
          x.2.toUTF8.data.toList ≤ y.2.toUTF8.data.toList ∧
            (x.2 = y.2 ↔ x.1 / 1000000 = y.1 / 1000000) := by
  obtain ⟨window, hfound⟩ : ∃ window, endingAt? stop offset days = some window :=
    ⟨_, endingAt?_of_fits stop offset days h⟩
  have hends := writes_of_mem_ends stop offset days window h hfound
  have hstart := hends (stop.nanos - days * Instant.dayNanos, window.start) List.mem_cons_self
  have hstop := hends (stop.nanos, window.stop) (List.mem_cons_of_mem _ List.mem_cons_self)
  refine ⟨window, hfound, hends, hstop.reads, ?_, ?_, ?_⟩
  · rw [← start_millis]
    exact hstart.reads
  · intro other hother
    rw [endingAt?_of_fits stop other days hother, ← hfound, endingAt?_of_fits stop offset days h]
  · intro stop' offset' days' window' h' hfound' x hx y hy hle
    have hothers := writes_of_mem_ends stop' offset' days' window' h' hfound'
    exact Instant.Writes.le _ _ _ _ (hends x hx) (hothers y hy) hle

/-- A morning of the first of March, with a part of a millisecond. -/
def firstOfMarch : Instant := ⟨1709273730123456000, by decide⟩

theorem endingAt?_firstOfMarch :
    Fits firstOfMarch 7200 1 ∧
      ∃ window, endingAt? firstOfMarch 7200 1 = some window ∧
        window = ⟨"2024-02-29T06:15:30.123Z", "2024-03-01T06:15:30.123Z"⟩ ∧
        Instant.readMillis? window.stop.toList = some 1709273730123 ∧
        Instant.readMillis? window.start.toList = some 1709187330123 ∧
        endingAt? firstOfMarch (-3600) 1 = some window := by
  have hfits : Fits firstOfMarch 7200 1 := ⟨by decide, by decide, by decide⟩
  have hwest : Fits firstOfMarch (-3600) 1 := ⟨by decide, by decide, by decide⟩
  rcases endingAt?_exact firstOfMarch 7200 1 hfits with
    ⟨window, hfound, -, hstop, hstart, hclocks, -⟩
  refine ⟨hfits, window, hfound, ?_, hstop, hstart, hclocks (-3600) hwest⟩
  have hvalue : endingAt? firstOfMarch 7200 1
      = some ⟨"2024-02-29T06:15:30.123Z", "2024-03-01T06:15:30.123Z"⟩ := by decide +kernel
  rw [hfound] at hvalue
  exact Option.some.inj hvalue

end Window

end PageSweep
