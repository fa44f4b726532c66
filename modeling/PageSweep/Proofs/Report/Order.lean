import PageSweep.Proofs.Metrics.Kind
import PageSweep.Proofs.Report.Collect
import PageSweep.Report.Text

/-!
# The Summary Does Not Depend on the Order

What is observed in a run comes in from many users at once, in an order that nobody
controls. Sums and counts do not depend on it, and the samples of a trend are put in
order before anything is computed from them. So the summary of a run is the same, to
the last bit, whenever the same operations were made, in whatever order they were made
and in whatever order the samples are read back.

Samples are put in order by their bits. Whoever puts them in order once more, by their
values, comes to the same median, unless a trend holds both zeros: these have the same
value but not the same bits.

## Main definitions

* `Kind.Same`: The same content, but for the order of samples.

## Theorems

* `alike_run`: The registries of the same operations in two orders.
* `finite_run_iff`: When a registry holds finite samples only.
* `collect_perm`: The summary of the same operations in two orders.
-/

namespace PageSweep

/-- That two series hold the same, but for the order of samples. -/
def Kind.Same : (kind : Kind) → kind.Content → kind.Content → Prop
  | .trend => fun (samples others : List Float) => samples.Perm others
  | .counter => fun (total other : UInt64) => total = other
  | .check => fun (t other : Tally) => t = other

theorem Kind.gathered_perm (kind : Kind) (front back : List kind.Observation)
    (hperm : front.Perm back) : kind.Same (kind.gathered front) (kind.gathered back) := by
  cases kind with
  | trend => exact (List.reverse_perm _).trans (hperm.trans (List.reverse_perm _).symm)
  | counter => exact Registry.increased_perm 0 front back hperm
  | check => exact Registry.tallied_perm Tally.zero front back hperm

theorem observationsOf_perm (kind : Kind) (name : String) (front back : List Operation)
    (hperm : front.Perm back) :
    (observationsOf kind name front).Perm (observationsOf kind name back) :=
  hperm.filterMap _

namespace Registry

theorem rel_find?_run (front back : List Operation) (hperm : front.Perm back) (kind : Kind)
    (name : String) :
    Option.Rel kind.Same (((empty.run front).catalog kind).find? name)
      (((empty.run back).catalog kind).find? name) := by
  have hfront := find?_run front kind name
  have hback := find?_run back kind name
  have hasked : (kind, name) ∈ front.map Operation.series ↔
      (kind, name) ∈ back.map Operation.series := (hperm.map _).mem_iff
  -- The same series were asked for, and each has the same observations.
  by_cases h : (kind, name) ∈ front.map Operation.series
  · rw [(hfront _).mpr ⟨h, rfl⟩, (hback _).mpr ⟨hasked.mp h, rfl⟩]
    exact Option.Rel.some (kind.gathered_perm _ _ (observationsOf_perm kind name front back hperm))
  · have hnone : ((empty.run front).catalog kind).find? name = none :=
      Option.eq_none_iff_forall_ne_some.mpr fun content hc => h ((hfront content).mp hc).1
    have hnone' : ((empty.run back).catalog kind).find? name = none :=
      Option.eq_none_iff_forall_ne_some.mpr fun content hc =>
        h (hasked.mpr ((hback content).mp hc).1)
    rw [hnone, hnone']
    exact Option.Rel.none

theorem eq_of_rel {α : Type} (left right : Option α) (h : Option.Rel (· = ·) left right) :
    left = right := by
  cases h with
  | some heq => rw [heq]
  | none => rfl

theorem alike_run (front back : List Operation) (hperm : front.Perm back) :
    (empty.run front).Alike (empty.run back) := by
  have hfront := sorted_empty_run front
  have hback := sorted_empty_run back
  have hrel := rel_find?_run front back hperm
  refine ⟨?_, ?_, ?_⟩
  · exact Catalog.forall₂_of_find? _ _ _ hfront.trends hback.trends (hrel .trend)
  · exact Catalog.ext_of_find? _ _ hfront.counters hback.counters fun name =>
      eq_of_rel _ _ (hrel .counter name)
  · exact Catalog.ext_of_find? _ _ hfront.checks hback.checks fun name =>
      eq_of_rel _ _ (hrel .check name)

/-- What holds of all samples of a registry holds of all that were added to it. -/
theorem forall_samples_run_iff (p : Float → Prop) (operations : List Operation) :
    (∀ entry ∈ (empty.run operations).trends, ∀ x ∈ entry.2, p x) ↔
      ∀ name x, .add name x ∈ operations → p x := by
  constructor
  · intro h name x hadd
    have hasked : (Kind.trend, name) ∈ operations.map Operation.series :=
      List.mem_map.mpr ⟨.add name x, hadd, rfl⟩
    refine h _ ((mem_run_iff operations .trend name _).mpr ⟨hasked, rfl⟩) x ?_
    exact List.mem_reverse.mpr ((mem_samplesOf_iff name x operations).mpr hadd)
  · rintro h ⟨name, samples⟩ hentry x hx
    have hsamples : samples = (samplesOf name operations).reverse :=
      ((mem_run_iff operations .trend name samples).mp hentry).2
    rw [hsamples, List.mem_reverse, mem_samplesOf_iff] at hx
    exact h name x hx

theorem finite_run_iff (operations : List Operation) :
    (empty.run operations).Finite ↔
      ∀ name x, .add name x ∈ operations → Decimal.isFinite x = true :=
  forall_samples_run_iff _ operations

end Registry

namespace Summary

/-- Two runs of the same operations, in whatever order, have one summary and one text,
also if the samples of each trend are read back in any order. Only finite samples may
be added. No trend may hold both zeros, and then it also does not matter whether the
median is taken from the samples in the order of their bits or of their values. -/
theorem collect_perm (front back : List Operation) (hperm : front.Perm back)
    (hfinite : ∀ name x, .add name x ∈ front → Decimal.isFinite x = true)
    (hzeros : ∀ name, ¬ (.add name 0.0 ∈ front ∧ .add name (-0.0) ∈ front))
    (scenarios : List RunStatistics) (elapsed : Span) :
    ∃ summary : Summary,
      (∀ r, (Registry.empty.run front).Alike r ∨ (Registry.empty.run back).Alike r →
        collect r scenarios elapsed = .ok summary ∧
        (collect r scenarios elapsed).map Summary.text? = .ok summary.text?) ∧
      ∀ trend ∈ summary.trends, ∀ figures, trend.stats = some figures →
        ∀ arranged : List Float, arranged.Perm (samplesOf trend.name back) →
          arranged.Pairwise (fun x y => x ≤ y) → Figures.median arranged = figures.med := by
  have hruns := Registry.alike_run front back hperm
  have hrun := (Registry.finite_run_iff front).mpr hfinite
  rcases exists_collect (Registry.empty.run front) hrun scenarios elapsed with ⟨summary, hsummary⟩
  refine ⟨summary, fun r hr => ?_, fun trend htrend figures hfigures arranged harranged hpair => ?_⟩
  · have hcollect : collect r scenarios elapsed = .ok summary := by
      rcases hr with hr | hr
      · rw [← collect_alike _ r hr, hsummary]
      · rw [← collect_alike _ r hr, ← collect_alike _ _ hruns, hsummary]
    exact ⟨hcollect, by rw [hcollect]; rfl⟩
  · -- The entry sums up the samples of the first run, and the arranged ones are those.
    have htrends := ((collect_eq_ok_iff _ scenarios elapsed summary).mp hsummary).2.1
    rcases exists_of_forall₂ _ _ _ htrends.flip trend htrend with ⟨⟨name, samples⟩, hentry, hsums⟩
    have hname : trend.name = name := hsums.1
    have hsamples : samples = (samplesOf name front).reverse :=
      ((Registry.mem_run_iff front .trend name samples).mp hentry).2
    have hvalues : arranged.Perm samples := by
      rw [hsamples]
      rw [hname] at harranged
      exact harranged.trans ((observationsOf_perm .trend name front back hperm).symm.trans
        (List.reverse_perm _).symm)
    have hadded : ∀ x, x ∈ samples ↔ .add name x ∈ front := fun x => by
      rw [hsamples, List.mem_reverse, mem_samplesOf_iff]
    have hsorted : arranged = Stats.sorted samples := by
      refine Stats.eq_sorted_of_le samples arranged hvalues (hrun (name, samples) hentry) ?_ hpair
      rw [hadded, hadded]
      exact hzeros name
    rcases Stats.ofValues_of_finite samples (hrun (name, samples) hentry) with ⟨stats, hstats, hmed⟩
    have hstats' : stats = trend.stats := Except.ok.inj (hstats.symm.trans hsums.2)
    rw [hsorted, hmed figures (hstats'.trans hfigures)]

/-- Operations in which every kind of series is asked for and observed. -/
def mixedOperations : List Operation :=
  [.add "page_ms" 0.1, .increment "pages" 0xffffffffffffffff, .record "200" true, .trend "idle_ms",
    .add "page_ms" 0.2, .check "200", .increment "pages" 2, .add "page_ms" 0.3, .record "200" false,
    .counter "pages"]

/-- The operations and their reversal: the sum of the samples would come out differently. -/
theorem collect_perm_reversed :
    mixedOperations.Perm mixedOperations.reverse ∧ (0.1 + 0.2 + 0.3 : Float) ≠ 0.3 + 0.2 + 0.1 ∧
    ∃ summary : Summary,
      (∀ r, (Registry.empty.run mixedOperations).Alike r ∨
          (Registry.empty.run mixedOperations.reverse).Alike r →
        collect r [] Span.zero = .ok summary ∧
        (collect r [] Span.zero).map Summary.text? = .ok summary.text?) ∧
      ∀ trend ∈ summary.trends, ∀ figures, trend.stats = some figures →
        ∀ arranged : List Float,
          arranged.Perm (samplesOf trend.name mixedOperations.reverse) →
            arranged.Pairwise (fun x y => x ≤ y) → Figures.median arranged = figures.med := by
  have hadd : ∀ name x, .add name x ∈ mixedOperations → x = 0.1 ∨ x = 0.2 ∨ x = 0.3 := by
    intro name x h
    simp only [mixedOperations, List.mem_cons, Operation.add.injEq, reduceCtorEq,
      List.not_mem_nil, or_false, false_or] at h
    rcases h with h | h | h
    · exact Or.inl h.2
    · exact Or.inr (Or.inl h.2)
    · exact Or.inr (Or.inr h.2)
  have hperm : mixedOperations.Perm mixedOperations.reverse := (List.reverse_perm _).symm
  refine ⟨hperm, by decide, collect_perm mixedOperations _ hperm (fun name x h => ?_)
    (fun name h => ?_) [] Span.zero⟩
  · rcases hadd name x h with rfl | rfl | rfl <;> decide
  · have hzero := hadd name 0.0 h.1
    exact absurd hzero (by decide)

end Summary

end PageSweep
