import PageSweep.Proofs.Catalog
import PageSweep.Proofs.Stats.Order
import PageSweep.Report

/-!
# Summing Up a Registry

A summary has one entry for each series of the registry, in the same order. The entry
of a trend depends on its samples but not on their order, so registries that differ in
nothing but the order of samples have the same summary. There is a summary exactly when
all samples are finite.

## Main definitions

* `TrendSummary.SumsUp`: An entry of a summary and a trend of the registry.
* `Registry.Alike`: Registries that differ in the order of samples only.
* `Registry.Finite`: A registry without infinities and NaNs.

## Theorems

* `collect_eq_ok_iff`: The entries of a summary.
* `exists_collect`, `collect_of_not_finite`: When there is a summary.
* `collect_alike`: The order of samples does not matter.
-/

namespace PageSweep

/-- That an entry of a summary sums up a trend. -/
def TrendSummary.SumsUp (entry : String × List Float) (trend : TrendSummary) : Prop :=
  trend.name = entry.1 ∧ Stats.ofValues entry.2 = .ok trend.stats

namespace Registry

/-- That two registries hold the same, but for the order of the samples of each trend. -/
structure Alike (r s : Registry) : Prop where
  trends : List.Forall₂ (fun a b => a.1 = b.1 ∧ a.2.Perm b.2) r.trends s.trends
  counters : r.counters = s.counters
  checks : r.checks = s.checks

theorem alike_refl (r : Registry) : r.Alike r :=
  ⟨List.forall₂_same.mpr fun _ _ => ⟨rfl, List.Perm.refl _⟩, rfl, rfl⟩

/-- That every sample is finite. -/
def Finite (r : Registry) : Prop :=
  ∀ entry ∈ r.trends, ∀ x ∈ entry.2, Decimal.isFinite x = true

end Registry

namespace Summary

/-- The entry of a trend. -/
def sumUp (entry : String × List Float) : Except Stats.Fault TrendSummary :=
  (Stats.ofValues entry.2).map fun stats => ⟨entry.1, stats⟩

theorem sumUp_eq_ok_iff (entry : String × List Float) (trend : TrendSummary) :
    sumUp entry = .ok trend ↔ TrendSummary.SumsUp entry trend := by
  rcases trend with ⟨name, stats⟩
  unfold sumUp TrendSummary.SumsUp
  cases Stats.ofValues entry.2 with
  | error fault => simp only [Except.map, reduceCtorEq, and_false]
  | ok figures =>
      simp only [Except.map, Except.ok.injEq, TrendSummary.mk.injEq]
      exact and_congr_left' eq_comm

theorem mapM_sumUp_eq_ok_iff (entries : Catalog (List Float)) (trends : List TrendSummary) :
    entries.mapM sumUp = .ok trends ↔ List.Forall₂ TrendSummary.SumsUp entries trends := by
  induction entries generalizing trends with
  | nil =>
      simp only [List.mapM_nil, List.forall₂_nil_left_iff, pure, Except.pure, Except.ok.injEq]
      exact eq_comm
  | cons entry rest ih =>
      simp only [List.mapM_cons, List.forall₂_cons_left_iff, ← ih, ← sumUp_eq_ok_iff]
      cases sumUp entry with
      | error fault => simp [bind, Except.bind]
      | ok trend =>
          cases rest.mapM sumUp with
          | error fault => simp [bind, Except.bind]
          | ok others =>
              simp only [bind, Except.bind, pure, Except.pure, Except.ok.injEq]
              constructor
              · intro h
                exact ⟨trend, others, rfl, rfl, h.symm⟩
              · rintro ⟨_, _, rfl, rfl, h⟩
                exact h.symm

theorem collect_eq (r : Registry) (scenarios : List RunStatistics) (elapsed : Span) :
    collect r scenarios elapsed = (r.trends.mapM sumUp).map fun trends =>
      { checks := r.checks.map fun entry => ⟨entry.1, entry.2.passes, entry.2.fails⟩
        trends
        counters := r.counters.map fun entry => ⟨entry.1, entry.2, rate entry.2 elapsed⟩
        scenarios
        elapsed } := by
  have hentry : ∀ entry : String × List Float, (do
      return ({ name := entry.1, stats := ← Stats.ofValues entry.2 } : TrendSummary))
        = sumUp entry := by
    intro entry
    unfold sumUp
    cases Stats.ofValues entry.2 <;> rfl
  unfold collect
  simp only [hentry]
  cases r.trends.mapM sumUp <;> rfl

theorem collect_eq_ok_iff (r : Registry) (scenarios : List RunStatistics) (elapsed : Span)
    (summary : Summary) :
    collect r scenarios elapsed = .ok summary ↔
      summary.checks = r.checks.map (fun entry => ⟨entry.1, entry.2.passes, entry.2.fails⟩) ∧
      List.Forall₂ TrendSummary.SumsUp r.trends summary.trends ∧
      summary.counters
        = r.counters.map (fun entry => ⟨entry.1, entry.2, rate entry.2 elapsed⟩) ∧
      summary.scenarios = scenarios ∧ summary.elapsed = elapsed := by
  rcases summary with ⟨checks, trends, counters, others, span⟩
  rw [collect_eq, ← mapM_sumUp_eq_ok_iff]
  cases r.trends.mapM sumUp with
  | error fault => simp only [Except.map, reduceCtorEq, false_and, and_false]
  | ok found =>
      simp only [Except.map, Except.ok.injEq, Summary.mk.injEq, @eq_comm _ checks,
        @eq_comm _ counters, @eq_comm _ others, @eq_comm _ span]

theorem exists_of_forall₂ {α β : Type} (related : α → β → Prop) (left : List α) (right : List β)
    (h : List.Forall₂ related left right) (a : α) (ha : a ∈ left) : ∃ b ∈ right, related a b := by
  induction h with
  | nil => exact absurd ha List.not_mem_nil
  | @cons first other rest others hfirst hrest ih =>
      rcases List.mem_cons.mp ha with heq | hmem
      · rw [heq]
        exact ⟨other, List.mem_cons_self, hfirst⟩
      · rcases ih hmem with ⟨b, hb, hrelated⟩
        exact ⟨b, List.mem_cons_of_mem _ hb, hrelated⟩

theorem exists_forall₂_sumsUp (entries : Catalog (List Float))
    (hfinite : ∀ entry ∈ entries, ∀ x ∈ entry.2, Decimal.isFinite x = true) :
    ∃ trends, List.Forall₂ TrendSummary.SumsUp entries trends := by
  induction entries with
  | nil => exact ⟨[], List.Forall₂.nil⟩
  | cons entry rest ih =>
      rcases ih fun other hother => hfinite other (List.mem_cons_of_mem _ hother)
        with ⟨trends, htrends⟩
      rcases Stats.ofValues_of_finite entry.2 (hfinite entry List.mem_cons_self)
        with ⟨stats, hstats, -⟩
      exact ⟨⟨entry.1, stats⟩ :: trends, List.Forall₂.cons ⟨rfl, hstats⟩ htrends⟩

theorem exists_collect (r : Registry) (hfinite : r.Finite) (scenarios : List RunStatistics)
    (elapsed : Span) : ∃ summary, collect r scenarios elapsed = .ok summary := by
  rcases exists_forall₂_sumsUp r.trends hfinite with ⟨trends, htrends⟩
  exact ⟨_, (collect_eq_ok_iff r scenarios elapsed ⟨_, trends, _, _, _⟩).mpr
    ⟨rfl, htrends, rfl, rfl, rfl⟩⟩

/-- A single sample that is not finite leaves the whole registry without a summary. -/
theorem collect_of_not_finite (r : Registry) (hfinite : ¬ r.Finite)
    (scenarios : List RunStatistics) (elapsed : Span) :
    collect r scenarios elapsed = .error .notFinite := by
  cases h : collect r scenarios elapsed with
  | error fault =>
      cases fault
      rfl
  | ok summary =>
      -- In a summary every trend has figures, so all of its samples are finite.
      refine absurd (fun entry hentry x hx => ?_) hfinite
      rcases (collect_eq_ok_iff r scenarios elapsed summary).mp h with ⟨-, htrends, -⟩
      rcases exists_of_forall₂ _ r.trends summary.trends htrends entry hentry with ⟨trend, -, hsums⟩
      cases hx' : Decimal.isFinite x with
      | true => rfl
      | false =>
          have hrefused := Stats.ofValues_of_not_finite entry.2 x hx hx'
          rw [hsums.2] at hrefused
          exact absurd hrefused (by simp only [reduceCtorEq, not_false_eq_true])

theorem mapM_sumUp_congr (entries others : Catalog (List Float))
    (h : List.Forall₂ (fun a b => a.1 = b.1 ∧ a.2.Perm b.2) entries others) :
    entries.mapM sumUp = others.mapM sumUp := by
  induction h with
  | nil => rfl
  | @cons entry other rest others hfirst hrest ih =>
      have hsame : sumUp entry = sumUp other := by
        unfold sumUp
        rw [hfirst.1, Stats.ofValues_perm entry.2 other.2 hfirst.2]
      rw [List.mapM_cons, List.mapM_cons, hsame, ih]

theorem collect_alike (r s : Registry) (halike : r.Alike s) (scenarios : List RunStatistics)
    (elapsed : Span) : collect r scenarios elapsed = collect s scenarios elapsed := by
  have htrends : r.trends.mapM sumUp = s.trends.mapM sumUp :=
    mapM_sumUp_congr r.trends s.trends halike.trends
  rw [collect_eq, collect_eq, htrends, halike.counters, halike.checks]

end Summary

end PageSweep
