import PageSweep.Proofs.Report.Order
import PageSweep.Proofs.Word

/-!
# What a Summary Lists

The summary of a registry lists every series that was asked for, once and in the order
of the names, with what was observed in it. A trend in which nothing was observed is
listed without figures. Since no name is listed twice in a kind, the first entry of a
name is the only one.

## Main definitions

* `Summary.Covers`: That a summary lists the given names, with what was observed.

## Theorems

* `find?_key_iff`: The first entry of a name.
* `covers_run`: The summary of a registry after operations.
* `failedChecks?_eq_some_iff`: How many checks of a summary failed in all.
-/

namespace PageSweep

namespace Summary

/-- That a summary lists the given names, each once, with what was observed under it. -/
structure Covers (summary : Summary) (names : Kind → List String) (operations : List Operation)
    (elapsed : Span) : Prop where
  trendNames : summary.trends.map TrendSummary.name = names .trend
  counterNames : summary.counters.map CounterSummary.name = names .counter
  checkNames : summary.checks.map CheckSummary.name = names .check
  stats : ∀ trend ∈ summary.trends,
    Stats.ofValues (samplesOf trend.name operations) = .ok trend.stats ∧
      (trend.stats = none ↔ samplesOf trend.name operations = [])
  totals : ∀ counter ∈ summary.counters,
    counter.total.toNat = ((incrementsOf counter.name operations).map UInt64.toNat).sum % 2 ^ 64 ∧
      counter.rate = rate counter.total elapsed
  tallies : ∀ check ∈ summary.checks,
    check.passes.toNat = (outcomesOf check.name operations).count true % 2 ^ 64 ∧
      check.fails.toNat = (outcomesOf check.name operations).count false % 2 ^ 64
  trend : ∀ name trend,
    summary.trend? name = some trend ↔ trend ∈ summary.trends ∧ trend.name = name
  counter : ∀ name counter,
    summary.counter? name = some counter ↔ counter ∈ summary.counters ∧ counter.name = name

theorem find?_key_iff {α : Type} (key : α → String) (entries : List α)
    (hasc : (entries.map key).Pairwise (· < ·)) (name : String) (entry : α) :
    entries.find? (fun other => key other = name) = some entry ↔
      entry ∈ entries ∧ key entry = name := by
  induction entries with
  | nil => simp only [List.find?_nil, reduceCtorEq, List.not_mem_nil, false_and]
  | cons first rest ih =>
      rw [List.map_cons, List.pairwise_cons] at hasc
      by_cases hfirst : key first = name
      · rw [List.find?_cons_of_pos (by simpa using hfirst), Option.some.injEq, List.mem_cons]
        constructor
        · rintro rfl
          exact ⟨Or.inl rfl, hfirst⟩
        · rintro ⟨rfl | hmem, hname⟩
          · rfl
          · -- A later entry has a later name.
            have hlt := hasc.1 (key entry) (List.mem_map_of_mem hmem)
            rw [hfirst, hname] at hlt
            exact absurd hlt (String.lt_irrefl name)
      · rw [List.find?_cons_of_neg (by simpa using hfirst), ih hasc.2, List.mem_cons]
        constructor
        · rintro ⟨hmem, hname⟩
          exact ⟨Or.inr hmem, hname⟩
        · rintro ⟨rfl | hmem, hname⟩
          · exact absurd hname hfirst
          · exact ⟨hmem, hname⟩

theorem names_of_forall₂ (entries : Catalog (List Float)) (trends : List TrendSummary)
    (h : List.Forall₂ TrendSummary.SumsUp entries trends) :
    trends.map TrendSummary.name = entries.names := by
  induction h with
  | nil => rfl
  | cons hfirst _ ih => exact congr (congrArg List.cons hfirst.1) ih

section Run

variable (operations : List Operation) (scenarios : List RunStatistics) (elapsed : Span)
  (summary : Summary)
  (hcollect : collect (Registry.empty.run operations) scenarios elapsed = .ok summary)

include hcollect

theorem covers_run :
    summary.Covers (fun kind => ((Registry.empty.run operations).catalog kind).names) operations
      elapsed := by
  have hsorted := Registry.sorted_empty_run operations
  rcases (collect_eq_ok_iff _ _ _ _).mp hcollect with ⟨hchecks, htrends, hcounters, -, -⟩
  have htrendNames := names_of_forall₂ _ _ htrends
  have hcounterNames : summary.counters.map CounterSummary.name
      = (Registry.empty.run operations).counters.names := by
    rw [hcounters, List.map_map]
    rfl
  have hcheckNames : summary.checks.map CheckSummary.name
      = (Registry.empty.run operations).checks.names := by
    rw [hchecks, List.map_map]
    rfl
  refine ⟨htrendNames, hcounterNames, hcheckNames, fun trend htrend => ?_,
    fun counter hcounter => ?_, fun check hcheck => ?_, fun name trend => ?_,
    fun name counter => ?_⟩
  · -- The samples are kept the other way round, which their figures do not show.
    rcases exists_of_forall₂ _ _ _ htrends.flip trend htrend with ⟨⟨name, samples⟩, hentry, hsums⟩
    rcases (Registry.mem_run_iff operations .trend name samples).mp hentry with ⟨-, hsamples⟩
    have hname : trend.name = name := hsums.1
    have hstats : Stats.ofValues (samplesOf trend.name operations) = .ok trend.stats := by
      rw [hname, ← hsums.2, hsamples]
      exact Stats.ofValues_perm _ _ (List.reverse_perm _).symm
    refine ⟨hstats, ?_⟩
    rw [← Stats.ofValues_eq_none_iff, hstats, Except.ok.injEq]
  · rw [hcounters, List.mem_map] at hcounter
    rcases hcounter with ⟨⟨name, total⟩, hentry, rfl⟩
    have htotal := (Registry.mem_run_iff operations .counter name total).mp hentry
    rw [htotal.2]
    exact ⟨Registry.toNat_increased_zero _, rfl⟩
  · rw [hchecks, List.mem_map] at hcheck
    rcases hcheck with ⟨⟨name, t⟩, hentry, rfl⟩
    have htally := (Registry.mem_run_iff operations .check name t).mp hentry
    rw [htally.2]
    exact ⟨Registry.toNat_passes_tallied_zero _, Registry.toNat_fails_tallied_zero _⟩
  · refine find?_key_iff TrendSummary.name _ ?_ name trend
    rw [htrendNames]
    exact Catalog.pairwise_names _ hsorted.trends
  · refine find?_key_iff CounterSummary.name _ ?_ name counter
    rw [hcounterNames]
    exact Catalog.pairwise_names _ hsorted.counters

end Run

/-- The failures of all checks are counted if there are fewer than a word can hold. -/
theorem failedChecks?_eq_some_iff (s : Summary) (failed : UInt64) :
    s.failedChecks? = some failed ↔
      failed.toNat = (s.checks.map fun check => check.fails.toNat).sum := by
  rw [failedChecks?, Word.sum?_eq_some_iff, List.map_map]
  rfl

end Summary

end PageSweep
