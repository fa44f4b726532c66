import Mathlib.Data.List.DropRight
import PageSweep.Proofs.Report.Collect
import PageSweep.Proofs.Report.Words
import PageSweep.Proofs.Word

/-!
# What a Printed Report Says

The figures of a printed report are rounded, but its names and its counts are not: they
can be read back from the text. The kinds of series are not set apart by headings of their
own. They can still be told apart, by how many words a line has and by one of these, and a
name can be told from the points behind it as long as it does not end in a point itself.
The names of checks stand in braces, so they may.

## Main definitions

* `Outline`: The names and counts of a report.
* `Summary.outline`: Those of a summary.
* `Summary.lines?`: The lines of a summary.
* `Summary.Legible`: Which names can be read back.
* `Report.Entry.read?`: What one line says.
* `Report.read`: What a text says.

## Theorems

* `Report.named_heading`, `Report.checkNamed_heading`: The names in headings.
* `Report.read?_checkLine`, `Report.read?_trendLine`, `Report.read?_counterLine`,
  `Report.read?_scenarioLine`: What the lines say.
* `Summary.lines_text?`: The lines of the text.
* `Summary.text?_eq_none_iff`: When there is a text.
* `Summary.read_text?`: The text is read back.
* `Summary.text_identifies`: Summaries of one text have the same names and counts.
-/

namespace PageSweep

open Text

/-- The names and counts of a report. -/
structure Outline where
  /-- The checks, with how often they passed and failed. -/
  checks : List (String × UInt64 × UInt64)
  /-- The trends, with how many samples they have, if any. -/
  trends : List (String × Option Nat)
  /-- The counters, with their totals. -/
  counters : List (String × UInt64)
  /-- The scenarios, with how many users they had and iterations they completed. -/
  scenarios : List (String × Nat × Nat)

namespace Report

section Names

/-- The name in the heading of a series. -/
def named (heading : List Char) : List Char :=
  (heading.drop indent.length).rdropWhile (· == '.')

theorem rdropWhile_append_replicate (name : List Char) (n : Nat)
    (hname : name.getLast? ≠ some '.') :
    (name ++ List.replicate n '.').rdropWhile (· == '.') = name := by
  induction n with
  | zero =>
      rw [List.replicate_zero, List.append_nil, List.rdropWhile_eq_self_iff]
      intro hne hlast
      rw [List.getLast?_eq_getLast_of_ne_nil hne, beq_iff_eq.mp hlast] at hname
      exact hname rfl
  | succ n ih =>
      rw [List.replicate_succ', ← List.append_assoc, List.rdropWhile_concat_pos _ _ _ rfl, ih]

/-- A name that does not end in a point can be told from the points behind it. -/
theorem named_heading (name : String) (hname : name.toList.getLast? ≠ some '.') :
    named (heading name) = name.toList := by
  rw [named, heading, List.drop_left, dotted, String.toList_append, String.toList_ofList,
    rdropWhile_append_replicate name.toList _ hname]

-- A point at the end of a name is lost among those behind it.
example : dotted "pages." = dotted "pages" := by decide

/-- The name in the heading of a check, which stands in braces. -/
def checkNamed (heading : List Char) : List Char :=
  ((named heading).drop "checks\x7b".length).dropLast

theorem checkNamed_heading (name : String) :
    checkNamed (heading ("checks\x7b" ++ name ++ "\x7d")) = name.toList := by
  have hlist : ("checks\x7b" ++ name ++ "\x7d").toList
      = ['c', 'h', 'e', 'c', 'k', 's', '\x7b'] ++ name.toList ++ ['\x7d'] := by
    rw [String.toList_append, String.toList_append]
    rfl
  -- The brace stands between the name and the points, whatever the name ends in.
  have hlast : ("checks\x7b" ++ name ++ "\x7d").toList.getLast? ≠ some '.' := by
    rw [hlist, List.getLast?_concat]
    decide
  rw [checkNamed, named_heading _ hlast, hlist, List.append_assoc]
  exact List.dropLast_concat

theorem not_mem_heading (name : String) (hname : '\n' ∉ name.toList) : '\n' ∉ heading name := by
  unfold heading dotted
  rw [String.toList_append, String.toList_ofList]
  intro hmem
  rcases List.mem_append.mp hmem with hmem | hmem
  · exact absurd hmem (by decide)
  · rcases List.mem_append.mp hmem with hmem | hmem
    · exact hname hmem
    · exact absurd (List.eq_of_mem_replicate hmem) (by decide)

end Names

section Numbers

/-- The number whose digits stand in a word. -/
def number (word : String) : Nat :=
  Nat.ofDigitChars 10 (word.toList.filter Char.isDigit) 0

theorem number_append (label : String) (n : Nat) (h : label.toList.filter Char.isDigit = []) :
    number (label ++ toString n) = n := by
  have hdigits : (toString n).toList = Nat.toDigits 10 n := Nat.toList_repr
  have hall : (toString n).toList.filter Char.isDigit = (toString n).toList :=
    List.filter_eq_self.mpr (isDigit_of_mem_toString n)
  rw [number, String.toList_append, List.filter_append, h, hall, List.nil_append, hdigits,
    Nat.ofDigitChars_ten_toDigits]

@[simp]
theorem number_toString (n : Nat) : number (toString n) = n := by
  have h := number_append "" n rfl
  rwa [String.empty_append] at h

end Numbers

/-- What a line of a report says. -/
inductive Entry where
  | check (entry : String × UInt64 × UInt64)
  | trend (entry : String × Option Nat)
  | counter (entry : String × UInt64)
  | scenario (entry : String × Nat × Nat)

namespace Entry

def check? : Entry → Option (String × UInt64 × UInt64)
  | .check entry => some entry
  | _ => none

def trend? : Entry → Option (String × Option Nat)
  | .trend entry => some entry
  | _ => none

def counter? : Entry → Option (String × UInt64)
  | .counter entry => some entry
  | _ => none

def scenario? : Entry → Option (String × Nat × Nat)
  | .scenario entry => some entry
  | _ => none

/-- What a heading and words say. Checks and trends with samples have five words, counters
and trends without samples have two. -/
def ofWords? (heading : List Char) : List String → Option Entry
  | [_, second, third, _, last] =>
    if second = "✓" then
      some (.check (String.ofList (checkNamed heading), UInt64.ofNat (number third),
        UInt64.ofNat (number last)))
    else some (.trend (String.ofList (named heading), some (number last)))
  | [first, _] =>
    if first = "no" then some (.trend (String.ofList (named heading), none))
    else some (.counter (String.ofList (named heading), UInt64.ofNat (number first)))
  | vus :: _ :: iterations :: _ :: _ :: _ :: _ =>
    some (.scenario (String.ofList (heading.drop indent.length), number vus, number iterations))
  | _ => none

/-- What a line says. -/
def read? (line : String) : Option Entry :=
  (Text.parts? line).bind fun (heading, words) => ofWords? heading words

end Entry

section Lines

theorem read?_of_isEntry {line : String} {heading : List Char} {words : List String}
    (h : IsEntry line heading words) : Entry.read? line = Entry.ofWords? heading words := by
  rw [Entry.read?, parts?_of_isEntry h, Option.bind_some]

theorem read?_checkLine (c : CheckSummary) (rate : Float) :
    Entry.read? (checkLine c rate) = some (.check (c.name, c.passes, c.fails)) := by
  rw [read?_of_isEntry (isEntry_checkLine c rate), checkWords, Entry.ofWords?, if_pos rfl,
    checkNamed_heading, number_toString, number_toString, UInt64.ofNat_toNat, UInt64.ofNat_toNat,
    String.ofList_toList]

theorem read?_trendLine (t : TrendSummary) (hname : t.name.toList.getLast? ≠ some '.') :
    Entry.read? (trendLine t) = some (.trend (t.name, t.stats.map Figures.count)) := by
  rw [read?_of_isEntry (isEntry_trendLine t), trendWords]
  cases t.stats with
  | none =>
      rw [Entry.ofWords?, if_pos rfl, named_heading t.name hname, String.ofList_toList]
      rfl
  | some stats =>
      -- The second word of a check is a mark and no figure.
      have hmark : ¬ "med=" ++ Latency.text stats.med = "✓" := by
        intro h
        have hlist := congrArg String.toList h
        rw [String.toList_append] at hlist
        exact absurd (List.cons.inj hlist).1 (by decide)
      rw [Entry.ofWords?, if_neg hmark, named_heading t.name hname,
        number_append "count=" stats.count rfl, String.ofList_toList]
      rfl

theorem read?_counterLine (c : CounterSummary) (hname : c.name.toList.getLast? ≠ some '.') :
    Entry.read? (counterLine c) = some (.counter (c.name, c.total)) := by
  -- The first word is a number.
  have hnumber : ¬ toString c.total.toNat = "no" := by
    intro h
    have hmem : 'n' ∈ (toString c.total.toNat).toList := by
      rw [h]
      decide
    exact absurd (isDigit_of_mem_toString _ 'n' hmem) (by decide)
  rw [read?_of_isEntry (isEntry_counterLine c), counterWords, Entry.ofWords?, if_neg hnumber,
    named_heading c.name hname, number_toString, UInt64.ofNat_toNat, String.ofList_toList]

theorem read?_scenarioLine (r : RunStatistics) :
    Entry.read? (scenarioLine r) = some (.scenario (r.name, r.vus, r.iterations)) := by
  rw [read?_of_isEntry (isEntry_scenarioLine r), scenarioWords]
  simp only [List.cons_append, List.nil_append, Entry.ofWords?]
  rw [List.drop_left, number_toString, number_toString, String.ofList_toList]

theorem read?_empty : Entry.read? "\n" = none := by
  decide

theorem filterMap_read? {α : Type} (items : List α) (line : α → String) (entry : α → Entry)
    (h : ∀ item ∈ items, Entry.read? (line item) = some (entry item)) :
    (items.map line).filterMap Entry.read? = items.map entry := by
  induction items with
  | nil => rfl
  | cons item others ih =>
      rcases List.forall_mem_cons.mp h with ⟨hitem, hothers⟩
      rw [List.map_cons, List.filterMap_cons_some hitem, ih hothers, List.map_cons]

end Lines

/-- What a text says. -/
def read (text : String) : Outline :=
  let entries := (lines text).filterMap Entry.read?
  { checks := entries.filterMap Entry.check?
    trends := entries.filterMap Entry.trend?
    counters := entries.filterMap Entry.counter?
    scenarios := entries.filterMap Entry.scenario? }

end Report

namespace Summary

open Report

/-- The names and counts of a summary. -/
def outline (s : Summary) : Outline :=
  { checks := s.checks.map fun c => (c.name, c.passes, c.fails)
    trends := s.trends.map fun t => (t.name, t.stats.map Figures.count)
    counters := s.counters.map fun c => (c.name, c.total)
    scenarios := s.scenarios.map fun r => (r.name, r.vus, r.iterations) }

/-- A line for each check, trend and counter, an empty line, and a line for each scenario. The
lines of the checks are given. -/
def linesAfter (s : Summary) (checks : List String) : List String :=
  checks ++ s.trends.map trendLine ++ s.counters.map counterLine ++ ["\n"] ++
    s.scenarios.map scenarioLine

/-- The lines of a summary, if the outcomes of its checks can be counted. -/
def lines? (s : Summary) : Option (List String) :=
  (s.checks.mapM checkLine?).map s.linesAfter

/-- That the names of a summary can be read back: no name holds a line feed, and no name of
a trend or a counter ends in a point. -/
structure Legible (s : Summary) : Prop where
  checks : ∀ c ∈ s.checks, '\n' ∉ c.name.toList
  trends : ∀ t ∈ s.trends, '\n' ∉ t.name.toList ∧ t.name.toList.getLast? ≠ some '.'
  counters : ∀ c ∈ s.counters, '\n' ∉ c.name.toList ∧ c.name.toList.getLast? ≠ some '.'
  scenarios : ∀ r ∈ s.scenarios, '\n' ∉ r.name.toList

theorem text?_eq_join (s : Summary) : s.text? = s.lines?.map String.join := by
  unfold text? lines? linesAfter
  simp only [Option.map_map, Function.comp_def, String.join_append]
  rfl

/-- There is a text unless the outcomes of a check cannot be counted. -/
theorem text?_eq_none_iff (s : Summary) :
    s.text? = none ↔ ∃ c ∈ s.checks, 2 ^ 64 ≤ c.passes.toNat + c.fails.toNat := by
  have hline : ∀ c : CheckSummary, checkLine? c = none ↔ 2 ^ 64 ≤ c.passes.toNat + c.fails.toNat :=
    fun c => by
      rw [checkLine?, CheckSummary.passRate?, Option.map_eq_none_iff, Option.map_eq_none_iff,
        Word.add?_eq_none_iff]
  rw [text?, Option.map_eq_none_iff]
  induction s.checks with
  | nil =>
      rw [List.mapM_nil]
      exact iff_of_false (by decide) fun ⟨c, hc, _⟩ => List.not_mem_nil hc
  | cons c rest ih =>
      -- The lines are there if the first one is and the others are.
      have hcons : (c :: rest).mapM checkLine? = none
          ↔ checkLine? c = none ∨ rest.mapM checkLine? = none := by
        rw [List.mapM_cons]
        cases checkLine? c with
        | none => exact iff_of_true rfl (Or.inl rfl)
        | some line => cases rest.mapM checkLine? <;> simp [bind, pure]
      refine hcons.trans ((or_congr (hline c) ih).trans ?_)
      simp only [List.mem_cons, exists_eq_or_imp]

/-- The line of every check, one after another. -/
theorem checks_of_mapM (checks : List CheckSummary) (texts : List String)
    (h : checks.mapM checkLine? = some texts) :
    List.Forall₂ (fun c text => ∃ rate, text = checkLine c rate) checks texts := by
  induction checks generalizing texts with
  | nil =>
      cases h
      exact List.Forall₂.nil
  | cons c rest ih =>
      rw [List.mapM_cons, Option.bind_eq_bind, Option.bind_eq_some_iff] at h
      rcases h with ⟨text, htext, h⟩
      rw [Option.bind_eq_bind, Option.bind_eq_some_iff] at h
      rcases h with ⟨others, hothers, h⟩
      cases h
      rcases Option.map_eq_some_iff.mp htext with ⟨rate, -, rfl⟩
      exact List.Forall₂.cons ⟨rate, rfl⟩ (ih others hothers)

section Legible

variable (s : Summary) (hs : s.Legible) (checks : List String)
variable (hchecks : List.Forall₂ (fun c text => ∃ rate, text = checkLine c rate) s.checks checks)
include hs hchecks

theorem isLine_of_mem_linesAfter : ∀ line ∈ s.linesAfter checks, IsLine line := by
  -- The words of a line hold no line feed, so only the name in its heading could.
  unfold linesAfter
  simp only [List.forall_mem_append, List.forall_mem_map, List.forall_mem_singleton]
  refine ⟨⟨⟨⟨fun line hline => ?_, fun t ht => ?_⟩, fun c hc => ?_⟩, ⟨[], rfl, List.not_mem_nil⟩⟩,
    fun r hr => ?_⟩
  · rcases exists_of_forall₂ _ _ _ hchecks.flip line hline with ⟨c, hc, rate, rfl⟩
    refine isLine_of_isEntry (isEntry_checkLine c rate) (not_mem_heading _ ?_)
    simp only [String.toList_append, List.mem_append, not_or]
    exact ⟨⟨by decide, hs.checks c hc⟩, by decide⟩
  · exact isLine_of_isEntry (isEntry_trendLine t) (not_mem_heading _ (hs.trends t ht).1)
  · exact isLine_of_isEntry (isEntry_counterLine c) (not_mem_heading _ (hs.counters c hc).1)
  · refine isLine_of_isEntry (isEntry_scenarioLine r) ?_
    simp only [List.mem_append, not_or]
    exact ⟨by decide, hs.scenarios r hr⟩

omit hs in
theorem filterMap_read?_checks :
    checks.filterMap Entry.read? = s.outline.checks.map Entry.check := by
  unfold outline
  generalize s.checks = entries at hchecks
  induction hchecks with
  | nil => rfl
  | cons hline _ ih =>
      rcases hline with ⟨rate, rfl⟩
      rw [List.filterMap_cons_some (read?_checkLine _ rate), ih, List.map_cons, List.map_cons]

theorem filterMap_read?_linesAfter :
    (s.linesAfter checks).filterMap Entry.read?
      = s.outline.checks.map Entry.check ++ s.outline.trends.map Entry.trend ++
          s.outline.counters.map Entry.counter ++ s.outline.scenarios.map Entry.scenario := by
  have htrends := filterMap_read? s.trends trendLine _
    fun t ht => read?_trendLine t (hs.trends t ht).2
  have hcounters := filterMap_read? s.counters counterLine _
    fun c hc => read?_counterLine c (hs.counters c hc).2
  have hscenarios := filterMap_read? s.scenarios scenarioLine _ fun r _ => read?_scenarioLine r
  -- The empty line says nothing.
  unfold linesAfter
  simp only [List.filterMap_append, filterMap_read?_checks s checks hchecks, htrends, hcounters,
    hscenarios, List.filterMap_cons_none read?_empty, List.filterMap_nil, List.append_nil]
  simp only [outline, List.map_map]
  rfl

end Legible

variable (s : Summary) (hs : s.Legible)
include hs

/-- The lines of the text of a summary. -/
theorem lines_text? : s.text?.map Text.lines = s.lines? := by
  rw [text?_eq_join, Option.map_map]
  unfold lines?
  cases hchecks : s.checks.mapM checkLine? with
  | none => rfl
  | some checks =>
      exact congrArg some (lines_join _ (isLine_of_mem_linesAfter s hs checks
        (checks_of_mapM _ _ hchecks)))

/-- The text of a summary is read back. -/
theorem read_text? (text : String) (h : s.text? = some text) : Report.read text = s.outline := by
  have hlines := lines_text? s hs
  rw [h, Option.map_some, lines?] at hlines
  rcases Option.map_eq_some_iff.mp hlines.symm with ⟨checks, hchecks, hlines⟩
  unfold Report.read
  rw [← hlines, filterMap_read?_linesAfter s hs checks (checks_of_mapM _ _ hchecks)]
  simp [List.filterMap_append, List.filterMap_map, Function.comp_def, Entry.check?, Entry.trend?,
    Entry.counter?, Entry.scenario?]

omit hs

/-- The text of a summary has one line for each check, trend and counter, an empty line, and
one line for each scenario. There is a text as long as the outcomes of each check can be
counted, and summaries with the same text have the same names and counts, in the same
order. -/
theorem text_identifies (s t : Summary) (hs : s.Legible) (ht : t.Legible) :
    s.text?.map Text.lines = s.lines? ∧
    (s.text? = none ↔ ∃ c ∈ s.checks, 2 ^ 64 ≤ c.passes.toNat + c.fails.toNat) ∧
    ∀ text, s.text? = some text → t.text? = some text → s.outline = t.outline := by
  refine ⟨lines_text? s hs, text?_eq_none_iff s, fun text hone hother => ?_⟩
  calc s.outline = Report.read text := (read_text? s hs text hone).symm
    _ = t.outline := read_text? t ht text hother

/-- A summary whose names look like something else. -/
def misleading (rate : Float) : Summary :=
  { checks := [⟨"200\x7d: 50.00% ✓ 7 ✗ 7", 3, 1⟩, ⟨"", 0, 0⟩]
    trends := [⟨"pages: 40 2.00/s", none⟩,
      ⟨"checks\x7b200\x7d", some ⟨25.0, 10.0, 25.0, 40.0, 40.0, 90000.0, 0.25, 4⟩⟩]
    counters := [⟨"page_last_1d_ms: no samples", 40, rate⟩]
    scenarios := [⟨"last_1d: 4 VUs, 10 complete iterations in 20s...", 4, 11, ⟨20000000000⟩⟩]
    elapsed := ⟨20000000000⟩ }

theorem text_identifies_misleading :
    (misleading 2.0).Legible ∧ (misleading 2.001).Legible ∧
      ∃ text, (misleading 2.0).text? = some text ∧ (misleading 2.001).text? = some text ∧
        some (Text.lines text) = (misleading 2.0).lines? ∧
        (misleading 2.0).outline = (misleading 2.001).outline := by
  have hone : (misleading 2.0).Legible := ⟨by decide, by decide, by decide, by decide⟩
  have hother : (misleading 2.001).Legible := ⟨by decide, by decide, by decide, by decide⟩
  have hsame : (misleading 2.0).text? = (misleading 2.001).text? := by decide +kernel
  rcases text_identifies (misleading 2.0) (misleading 2.001) hone hother
    with ⟨hlines, hnone, houtline⟩
  rcases htext : (misleading 2.0).text? with _ | text
  · exact absurd (hnone.mp htext) (by decide)
  · rw [htext] at hlines hsame
    exact ⟨hone, hother, text, rfl, hsame.symm, hlines, houtline text htext hsame.symm⟩

end Summary

end PageSweep
