import PageSweep.Proofs.Text.Lines
import PageSweep.Proofs.Time.Span
import PageSweep.Report.Text

/-!
# The Words of a Report

Whatever a figure is, an infinity or a NaN included, it is printed as one word. So every
line of a report is a heading and a number of words, and the name in its heading is the
only text in it that was not made by the report itself.

## Main definitions

* `Report.heading`: The heading of a series.
* `Report.checkWords`, `Report.trendWords`, `Report.counterWords`: The words of a series.
* `Report.scenarioWords`: The words of a scenario.

## Theorems

* `Decimal.isWord_fixed`, `Latency.isWord_text`: Figures are words.
* `Span.spaced_textParts`: A span is written in words.
* `Report.isEntry_checkLine`, `Report.isEntry_trendLine`, `Report.isEntry_counterLine`,
  `Report.isEntry_scenarioLine`: What the lines consist of.
-/

namespace PageSweep

open Text

namespace Decimal

theorem isWord_padded (width n : Nat) : IsWord (padded width n) := by
  refine (isWord_append _ _).mpr ⟨?_, isWord_toString n⟩
  intro c hc
  rw [String.toList_ofList] at hc
  rw [List.eq_of_mem_replicate hc]
  decide

theorem isWord_pointed (places units : Nat) : IsWord (pointed places units) := by
  refine (isWord_append _ _).mpr ⟨(isWord_append _ _).mpr ⟨isWord_toString _, ?_⟩, ?_⟩
  · decide
  · exact isWord_padded _ _

theorem isWord_sign (negative : Bool) : IsWord (if negative then "-" else "") := by
  cases negative <;> decide

/-- A double with fixed places is one word. -/
theorem isWord_fixed (places : Nat) (x : Float) : IsWord (fixed places x) := by
  unfold fixed
  cases binary x with
  | nan => exact (by decide : IsWord "NaN")
  | infinite negative =>
      cases negative with
      | false => exact (by decide : IsWord "inf")
      | true => exact (by decide : IsWord "-inf")
  | finite negative mantissa exponent =>
      exact (isWord_append _ _).mpr ⟨isWord_sign negative, isWord_pointed _ _⟩

end Decimal

namespace Latency

theorem isWord_wholeText (x : Float) : IsWord (wholeText x) := by
  unfold wholeText
  cases hx : Decimal.binary x with
  | finite negative mantissa exponent =>
      exact (isWord_append _ _).mpr ⟨Decimal.isWord_sign negative, isWord_toString _⟩
  | nan => exact Decimal.isWord_fixed 0 x
  | infinite negative => exact Decimal.isWord_fixed 0 x

/-- A latency is one word, in every unit. -/
theorem isWord_text (ms : Float) : IsWord (text ms) := by
  have hunit : ∀ (x : Float) (unit : String), IsWord unit → IsWord (Decimal.fixed 2 x ++ unit) :=
    fun x unit h => (isWord_append _ _).mpr ⟨Decimal.isWord_fixed 2 x, h⟩
  unfold text
  split
  · have hminutes : ∀ x, IsWord (wholeText x ++ "m") :=
      fun x => (isWord_append _ _).mpr ⟨isWord_wholeText x, by decide⟩
    dsimp only
    rw [String.append_assoc]
    exact (isWord_append _ _).mpr ⟨hminutes _, hunit _ "s" (by decide)⟩
  · split
    · exact hunit _ "s" (by decide)
    · split
      · exact hunit _ "ms" (by decide)
      · exact hunit _ "µs" (by decide)

end Latency

namespace Span

theorem isWord_part (p : Part) : IsWord p.text := by
  refine (isWord_append _ _).mpr ⟨isWord_toString _, ?_⟩
  intro c hc
  have hletter := List.all_eq_true.mp p.letters c hc
  refine ⟨?_, ?_, ?_⟩ <;> (rintro rfl; exact absurd hletter (by decide))

theorem spaced_written (p : Part) (others : List Part) :
    ' ' :: written (p :: others) = spaced ((p :: others).map Part.text) := by
  induction others generalizing p with
  | nil =>
      have hwritten : written [p] = p.text.toList := List.intercalate_singleton
      rw [hwritten, List.map_singleton, spaced, List.flatMap_singleton]
  | cons q more ih =>
      have hwritten : written (p :: q :: more) = p.text.toList ++ ' ' :: written (q :: more) := by
        unfold written
        rw [List.map_cons, List.map_cons, List.intercalate_cons_cons, List.append_assoc]
        rfl
      rw [hwritten, ih]
      rfl

/-- A span is written in words. -/
theorem spaced_textParts (span : Span) :
    ' ' :: span.text.toList = spaced ((textParts span).map Part.text) := by
  rcases exists_textParts span with ⟨p, others, hparts⟩
  rw [toList_text, hparts, spaced_written]

end Span

namespace Report

/-- The blanks in front of every line. -/
def indent : List Char := [' ', ' ', ' ', ' ', ' ']

/-- The heading of a series. -/
def heading (name : String) : List Char := indent ++ (dotted name).toList

/-- How every line is put together. -/
theorem toList_entry (front value : String) (words : List String)
    (hvalue : ' ' :: value.toList = spaced words) :
    ("     " ++ front ++ ": " ++ value ++ "\n").toList
      = indent ++ front.toList ++ ':' :: spaced words ++ ['\n'] := by
  rw [← hvalue]
  simp [indent]

/-- The words of a check. -/
def checkWords (c : CheckSummary) (rate : Float) : List String :=
  [Decimal.fixed 2 (rate * 100.0) ++ "%", "✓", toString c.passes.toNat, "✗",
    toString c.fails.toNat]

/-- The words of a trend. -/
def trendWords (t : TrendSummary) : List String :=
  match t.stats with
  | some stats => ["avg=" ++ Latency.text stats.avg, "med=" ++ Latency.text stats.med,
      "p(95)=" ++ Latency.text stats.p95, "p(99)=" ++ Latency.text stats.p99,
      "count=" ++ toString stats.count]
  | none => ["no", "samples"]

/-- The words of a counter. -/
def counterWords (c : CounterSummary) : List String :=
  [toString c.total.toNat, Decimal.fixed 2 c.rate ++ "/s"]

/-- The words of a scenario. -/
def scenarioWords (r : RunStatistics) : List String :=
  [toString r.vus, "VUs,", toString r.iterations, "complete", "iterations", "in"] ++
    (Span.textParts (Span.ofMillis (r.elapsed.millis % 0x10000000000000000))).map Span.Part.text

section Lines

theorem isEntry_checkLine (c : CheckSummary) (rate : Float) :
    IsEntry (checkLine c rate) (heading ("checks\x7b" ++ c.name ++ "\x7d"))
      (checkWords c rate) := by
  have hrate : IsWord (Decimal.fixed 2 (rate * 100.0) ++ "%") :=
    (isWord_append _ _).mpr ⟨Decimal.isWord_fixed _ _, by decide⟩
  refine ⟨toList_entry _ _ _ ?_, ?_⟩
  · simp [checkWords, spaced]
  · simp only [checkWords, List.forall_mem_cons]
    exact ⟨hrate, by decide, isWord_toString _, by decide, isWord_toString _,
      List.forall_mem_nil _⟩

theorem isEntry_trendLine (t : TrendSummary) :
    IsEntry (trendLine t) (heading t.name) (trendWords t) := by
  unfold trendLine trendWords
  cases t.stats with
  | none => exact ⟨toList_entry _ _ _ rfl, by decide⟩
  | some stats =>
      have hfigure : ∀ label ms, IsWord label → IsWord (label ++ Latency.text ms) :=
        fun label ms h => (isWord_append _ _).mpr ⟨h, Latency.isWord_text ms⟩
      have hcount : IsWord ("count=" ++ toString stats.count) :=
        (isWord_append _ _).mpr ⟨by decide, isWord_toString _⟩
      refine ⟨toList_entry _ _ _ ?_, ?_⟩
      · simp [Stats.text, spaced]
      · simp only [List.forall_mem_cons]
        exact ⟨hfigure "avg=" _ (by decide), hfigure "med=" _ (by decide),
          hfigure "p(95)=" _ (by decide), hfigure "p(99)=" _ (by decide), hcount,
          List.forall_mem_nil _⟩

theorem isEntry_counterLine (c : CounterSummary) :
    IsEntry (counterLine c) (heading c.name) (counterWords c) := by
  have hrate : IsWord (Decimal.fixed 2 c.rate ++ "/s") :=
    (isWord_append _ _).mpr ⟨Decimal.isWord_fixed _ _, by decide⟩
  refine ⟨toList_entry _ _ _ ?_, ?_⟩
  · simp [counterWords, spaced]
  · simp only [counterWords, List.forall_mem_cons]
    exact ⟨isWord_toString _, hrate, List.forall_mem_nil _⟩

theorem spaced_scenarioWords (vus iterations : Nat) (time : String) (words : List String)
    (htime : ' ' :: time.toList = spaced words) :
    ' ' :: (toString vus ++ " VUs, " ++ toString iterations ++ " complete iterations in " ++
        time).toList
      = spaced ([toString vus, "VUs,", toString iterations, "complete", "iterations", "in"] ++
          words) := by
  have happend : ∀ front back, spaced (front ++ back) = spaced front ++ spaced back :=
    fun front back => List.flatMap_append
  rw [happend, ← htime]
  simp [spaced]

theorem isEntry_scenarioLine (r : RunStatistics) :
    IsEntry (scenarioLine r) (indent ++ r.name.toList) (scenarioWords r) := by
  constructor
  · have hvalue := spaced_scenarioWords r.vus r.iterations _ _
      (Span.spaced_textParts (Span.ofMillis (r.elapsed.millis % 0x10000000000000000)))
    have hline := toList_entry r.name _ _ hvalue
    simp only [String.append_assoc] at hline
    rw [scenarioLine, RunStatistics.text]
    simp only [String.append_assoc]
    exact hline
  · refine List.forall_mem_append.mpr ⟨?_, ?_⟩
    · simp only [List.forall_mem_cons]
      exact ⟨isWord_toString _, by decide, isWord_toString _, by decide, by decide, by decide,
        List.forall_mem_nil _⟩
    · intro word hword
      rcases List.mem_map.mp hword with ⟨p, -, rfl⟩
      exact Span.isWord_part p

end Lines

end Report

end PageSweep
