import PageSweep.Metrics.Exporter
import PageSweep.Proofs.Metrics.Kind

/-!
# The Exporter Shows the Registry

The registry files series by kind and name, the exporter by keys. Every observation
goes to both, and what the exporter shows is at any time what the registry holds: a
histogram for each trend, a counter for each counter, two counters for each check, and
nothing else. Nothing is mixed up on the way, because no two series have a key in
common, not even a counter that is called like the counters of the checks.

## Main definitions

* `Exporter.Mirrors`: That an exporter shows what a registry holds.
* `Kind.keys`: The keys of a series.

## Theorems

* `find?_adjust_self`, `find?_adjust_of_ne`: What changing a series does.
* `adjust_of_find?`: Asking for an exported series once more does nothing.
* `keys_disjoint`: Different series have different keys.
* `mirrors_run`: What is shown after operations.
* `apply_ask_of_mem`: Asking again leaves the exporter as it is.
-/

namespace PageSweep

/-- The keys under which a series is exported. -/
def Kind.keys : Kind → String → List Exporter.Key
  | .trend, name => [.histogram name]
  | .counter, name => [.counter name []]
  | .check, name => [Exporter.resultKey name true, Exporter.resultKey name false]

namespace Exporter

section Adjust

variable (key other : Key) (start : Reading) (change : Reading → Reading)

theorem lookup_adjust_self (series : List (Key × Reading)) :
    (adjust key start change series).lookup key
      = some (change ((series.lookup key).getD start)) := by
  induction series with
  | nil => simp only [adjust, List.lookup_cons_self, List.lookup_nil, Option.getD_none]
  | cons entry rest ih =>
      rcases entry with ⟨k, reading⟩
      by_cases hk : k = key
      · subst hk
        simp only [adjust, if_true, List.lookup_cons_self, Option.getD_some]
      · have hne : (key == k) = false := beq_false_of_ne fun hc => hk hc.symm
        simp only [adjust, if_neg hk, List.lookup_cons, hne]
        exact ih

theorem lookup_adjust_of_ne (hne : other ≠ key) (series : List (Key × Reading)) :
    (adjust key start change series).lookup other = series.lookup other := by
  have hother : (other == key) = false := beq_false_of_ne hne
  induction series with
  | nil => simp only [adjust, List.lookup_cons, hother, List.lookup_nil]
  | cons entry rest ih =>
      rcases entry with ⟨k, reading⟩
      by_cases hk : k = key
      · subst hk
        simp only [adjust, if_true, List.lookup_cons, hother]
      · simp only [adjust, if_neg hk, List.lookup_cons, ih]

theorem adjust_of_lookup (reading : Reading) (series : List (Key × Reading))
    (h : series.lookup key = some reading) : adjust key start id series = series := by
  induction series with
  | nil => exact absurd h (by simp only [List.lookup_nil, reduceCtorEq, not_false_eq_true])
  | cons entry rest ih =>
      rcases entry with ⟨k, first⟩
      by_cases hk : k = key
      · simp only [adjust, if_pos hk, id]
      · have hne : (key == k) = false := beq_false_of_ne fun hc => hk hc.symm
        simp only [List.lookup_cons, hne] at h
        simp only [adjust, if_neg hk, ih h]

theorem isSome_lookup (series : List (Key × Reading)) (hmem : key ∈ series.map Prod.fst) :
    (series.lookup key).isSome = true := by
  induction series with
  | nil => exact absurd hmem List.not_mem_nil
  | cons entry rest ih =>
      rcases entry with ⟨k, reading⟩
      by_cases hk : key = k
      · subst hk
        rw [List.lookup_cons_self, Option.isSome_some]
      · have hne : (key == k) = false := beq_false_of_ne hk
        simp only [List.lookup_cons, hne]
        exact ih ((List.mem_cons.mp hmem).resolve_left hk)

theorem mem_keys_adjust (series : List (Key × Reading))
    (hmem : other ∈ (adjust key start change series).map Prod.fst) :
    other = key ∨ other ∈ series.map Prod.fst := by
  induction series with
  | nil => exact Or.inl (List.mem_singleton.mp hmem)
  | cons entry rest ih =>
      rcases entry with ⟨k, reading⟩
      by_cases hk : k = key
      · simp only [adjust, if_pos hk] at hmem
        exact Or.inr hmem
      · simp only [adjust, if_neg hk, List.map_cons, List.mem_cons] at hmem ⊢
        rcases hmem with h | h
        · exact Or.inr (Or.inl h)
        · exact (ih h).imp_right Or.inr

theorem nodup_adjust (series : List (Key × Reading)) (hnodup : (series.map Prod.fst).Nodup) :
    ((adjust key start change series).map Prod.fst).Nodup := by
  induction series with
  | nil => exact List.pairwise_singleton _ _
  | cons entry rest ih =>
      rcases entry with ⟨k, reading⟩
      rcases List.nodup_cons.mp hnodup with ⟨hfirst, hrest⟩
      by_cases hk : k = key
      · simp only [adjust, if_pos hk]
        exact hnodup
      · simp only [adjust, if_neg hk]
        refine List.nodup_cons.mpr ⟨fun hmem => ?_, ih hrest⟩
        rcases mem_keys_adjust key k start change rest hmem with h | h
        · exact hk h
        · exact hfirst h

end Adjust

theorem resultKey_inj (name other : String) (passed result : Bool) :
    resultKey name passed = resultKey other result ↔ name = other ∧ passed = result := by
  unfold resultKey
  cases passed <;> cases result <;> simp

theorem resultKey_ne_counter (name other : String) (passed : Bool) :
    resultKey name passed ≠ .counter other [] := by
  unfold resultKey
  simp

/-- Different series have different keys, whatever their names. -/
theorem keys_disjoint (kind otherKind : Kind) (name other : String) (key : Key)
    (hkey : key ∈ kind.keys name) (hother : key ∈ otherKind.keys other) :
    kind = otherKind ∧ name = other := by
  unfold Kind.keys resultKey at hkey hother
  cases kind <;> cases otherKind <;> grind

/-- The counter of a result shows the passes of a check or its fails. -/
def shown (passed : Bool) (t : Tally) : Reading :=
  .total (if passed then t.passes else t.fails)

/-- That an exporter shows what a registry holds, and nothing else. -/
structure Mirrors (e : Exporter) (r : Registry) : Prop where
  nodup : (e.series.map Prod.fst).Nodup
  histogram : ∀ name, e.find? (.histogram name) = (r.trends.find? name).map .values
  counter : ∀ name, e.find? (.counter name []) = (r.counters.find? name).map .total
  result : ∀ name passed,
    e.find? (resultKey name passed) = (r.checks.find? name).map (shown passed)
  only : ∀ key ∈ e.series.map Prod.fst,
    (∃ name, key = .histogram name) ∨ (∃ name, key = .counter name []) ∨
      ∃ name passed, key = resultKey name passed

theorem mirrors_empty : Mirrors empty Registry.empty :=
  ⟨List.Pairwise.nil, fun _ => rfl, fun _ => rfl, fun _ _ => rfl,
    fun _ h => absurd h List.not_mem_nil⟩

/-- A series that is changed in the exporter as it is in a catalog. -/
theorem lookup_adjust_map {α : Type} (wrap : α → Reading) (f : α → α)
    (change : Reading → Reading) (hchange : ∀ a, change (wrap a) = wrap (f a)) (key : Key)
    (series : List (Key × Reading)) (entries : Catalog α) (hasc : entries.Ascending)
    (name : String) (start : α) (h : series.lookup key = (entries.find? name).map wrap) :
    (adjust key (wrap start) change series).lookup key
      = ((entries.adjust name start f).find? name).map wrap := by
  rw [lookup_adjust_self, Catalog.find?_adjust_self name start f entries hasc, h, Option.getD_map,
    hchange, Option.map_some]

section Step

variable (e : Exporter) (r : Registry) (hr : r.Sorted) (h : Mirrors e r) (name : String)

include hr h

theorem mirrors_trend (f : List Float → List Float) (change : Reading → Reading)
    (hchange : ∀ samples, change (.values samples) = .values (f samples)) :
    Mirrors ⟨adjust (.histogram name) (.values []) change e.series⟩
      { r with trends := r.trends.adjust name [] f } := by
  -- Only the key of the trend changes. Keys of counters and checks are other ones.
  refine ⟨nodup_adjust _ _ _ _ h.nodup, fun other => ?_, fun other => ?_,
    fun other passed => ?_, fun key hkey => ?_⟩
  · by_cases hname : other = name
    · subst hname
      exact lookup_adjust_map .values f change hchange _ _ _ hr.trends _ _ (h.histogram other)
    · have hne : Key.histogram other ≠ .histogram name := fun hc => hname (Key.histogram.inj hc)
      rw [Catalog.find?_adjust_of_ne name other _ _ _ hname]
      exact (lookup_adjust_of_ne _ _ _ _ hne _).trans (h.histogram other)
  · exact (lookup_adjust_of_ne _ _ _ _ (by simp) _).trans (h.counter other)
  · exact (lookup_adjust_of_ne _ _ _ _ (by simp [resultKey]) _).trans (h.result other passed)
  · rcases mem_keys_adjust _ _ _ _ _ hkey with heq | hold
    · exact Or.inl ⟨name, heq⟩
    · exact h.only key hold

theorem mirrors_counter (f : UInt64 → UInt64) (change : Reading → Reading)
    (hchange : ∀ total, change (.total total) = .total (f total)) :
    Mirrors ⟨adjust (.counter name []) (.total 0) change e.series⟩
      { r with counters := r.counters.adjust name 0 f } := by
  refine ⟨nodup_adjust _ _ _ _ h.nodup, fun other => ?_, fun other => ?_,
    fun other passed => ?_, fun key hkey => ?_⟩
  · exact (lookup_adjust_of_ne _ _ _ _ (by simp) _).trans (h.histogram other)
  · by_cases hname : other = name
    · subst hname
      exact lookup_adjust_map .total f change hchange _ _ _ hr.counters _ _ (h.counter other)
    · have hne : Key.counter other [] ≠ .counter name [] := fun hc => hname (Key.counter.inj hc).1
      rw [Catalog.find?_adjust_of_ne name other _ _ _ hname]
      exact (lookup_adjust_of_ne _ _ _ _ hne _).trans (h.counter other)
  · -- The counters of checks have labels, whatever the counter is called.
    exact (lookup_adjust_of_ne _ _ _ _ (resultKey_ne_counter other name passed) _).trans
      (h.result other passed)
  · rcases mem_keys_adjust _ _ _ _ _ hkey with heq | hold
    · exact Or.inr (Or.inl ⟨name, heq⟩)
    · exact h.only key hold

theorem mirrors_check :
    Mirrors ⟨register name e.series⟩ { r with checks := r.checks.adjust name Tally.zero id } := by
  have hresults : ∀ other passed, (register name e.series).lookup (resultKey other passed)
      = ((r.checks.adjust name Tally.zero id).find? other).map (shown passed) := by
    intro other passed
    unfold register
    by_cases hname : other = name
    · subst hname
      have hne : resultKey other true ≠ resultKey other false := by simp [resultKey_inj]
      cases passed with
      | true =>
          rw [lookup_adjust_of_ne _ _ _ _ hne]
          exact lookup_adjust_map (shown true) id id (fun _ => rfl) _ _ _ hr.checks _ Tally.zero
            (h.result other true)
      | false =>
          refine
            lookup_adjust_map (shown false) id id (fun _ => rfl) _ _ _ hr.checks _ Tally.zero ?_
          rw [lookup_adjust_of_ne _ _ _ _ hne.symm]
          exact h.result other false
    · have hne : ∀ result, resultKey other passed ≠ resultKey name result := fun result hc =>
        hname ((resultKey_inj _ _ _ _).mp hc).1
      rw [lookup_adjust_of_ne _ _ _ _ (hne false), lookup_adjust_of_ne _ _ _ _ (hne true),
        Catalog.find?_adjust_of_ne name other _ _ _ hname]
      exact h.result other passed
  refine ⟨nodup_adjust _ _ _ _ (nodup_adjust _ _ _ _ h.nodup), fun other => ?_, fun other => ?_,
    hresults, fun key hkey => ?_⟩
  · refine (lookup_adjust_of_ne _ _ _ _ (by simp [resultKey]) _).trans ?_
    exact (lookup_adjust_of_ne _ _ _ _ (by simp [resultKey]) _).trans (h.histogram other)
  · refine (lookup_adjust_of_ne _ _ _ _ (resultKey_ne_counter _ _ _).symm _).trans ?_
    exact (lookup_adjust_of_ne _ _ _ _ (resultKey_ne_counter _ _ _).symm _).trans (h.counter other)
  · rcases mem_keys_adjust _ _ _ _ _ hkey with heq | hkey
    · exact Or.inr (Or.inr ⟨name, false, heq⟩)
    · rcases mem_keys_adjust _ _ _ _ _ hkey with heq | hold
      · exact Or.inr (Or.inr ⟨name, true, heq⟩)
      · exact h.only key hold

/-- An outcome of a check that was asked for goes to the counter of its result. -/
theorem mirrors_record (t : Tally) (hfiled : r.checks.find? name = some t) (passed : Bool) :
    Mirrors ⟨adjust (resultKey name passed) (.total 0) (.increase 1) e.series⟩
      { r with checks := r.checks.adjust name Tally.zero (·.record passed) } := by
  refine ⟨nodup_adjust _ _ _ _ h.nodup, fun other => ?_, fun other => ?_,
    fun other result => ?_, fun key hkey => ?_⟩
  · exact (lookup_adjust_of_ne _ _ _ _ (by simp [resultKey]) _).trans (h.histogram other)
  · exact (lookup_adjust_of_ne _ _ _ _ (resultKey_ne_counter _ _ _).symm _).trans (h.counter other)
  · by_cases hname : other = name
    · subst hname
      by_cases hresult : result = passed
      · subst hresult
        have hstart : shown result Tally.zero = .total 0 := by cases result <;> rfl
        have hchange : ∀ tally : Tally,
            (shown result tally).increase 1 = shown result (tally.record result) := by
          intro tally
          cases result <;> rfl
        have hself := lookup_adjust_map (shown result) (·.record result) _ hchange _ _ _ hr.checks
          _ Tally.zero (h.result other result)
        rw [hstart] at hself
        exact hself
      · -- The counter of the other result stays, and so do these outcomes.
        have hne : resultKey other result ≠ resultKey other passed := fun hc =>
          hresult ((resultKey_inj _ _ _ _).mp hc).2
        refine (lookup_adjust_of_ne _ _ _ _ hne _).trans ?_
        have hold := h.result other result
        unfold find? at hold
        rw [hold, Catalog.find?_adjust_self other _ _ _ hr.checks, hfiled]
        cases result <;> cases passed <;> first | rfl | exact absurd rfl hresult
    · have hne : resultKey other result ≠ resultKey name passed := fun hc =>
        hname ((resultKey_inj _ _ _ _).mp hc).1
      rw [Catalog.find?_adjust_of_ne name other _ _ _ hname]
      exact (lookup_adjust_of_ne _ _ _ _ hne _).trans (h.result other result)
  · rcases mem_keys_adjust _ _ _ _ _ hkey with heq | hold
    · exact Or.inr (Or.inr ⟨name, passed, heq⟩)
    · exact h.only key hold

end Step

theorem mirrors_apply (e : Exporter) (r : Registry) (hr : r.Sorted) (h : Mirrors e r)
    (operation : Operation) : Mirrors (e.apply operation) (r.apply operation) := by
  cases operation with
  | trend name => exact mirrors_trend e r hr h name id id fun _ => rfl
  | counter name => exact mirrors_counter e r hr h name id id fun _ => rfl
  | check name => exact mirrors_check e r hr h name
  | add name sample => exact mirrors_trend e r hr h name _ _ fun _ => rfl
  | increment name amount => exact mirrors_counter e r hr h name _ _ fun _ => rfl
  | record name passed =>
      -- An outcome asks for the check first.
      have hasked := mirrors_check e r hr h name
      have hsorted := Registry.sorted_apply r (.check name) hr
      have hfiled := Catalog.find?_adjust_self name Tally.zero id r.checks hr.checks
      have hrecord := mirrors_record _ _ hsorted hasked name _ hfiled passed
      have hsame := Catalog.adjust_adjust name Tally.zero (·.record passed) r.checks hr.checks
      simp only [Registry.apply, hsame] at hrecord
      exact hrecord

theorem mirrors_run (operations : List Operation) :
    Mirrors (empty.run operations) (Registry.empty.run operations) := by
  have hstep : ∀ (e : Exporter) (r : Registry), r.Sorted → Mirrors e r →
      Mirrors (e.run operations) (r.run operations) := by
    induction operations with
    | nil => exact fun e r _ h => h
    | cons operation rest ih =>
        exact fun e r hr h => ih _ _ (Registry.sorted_apply r operation hr)
          (mirrors_apply e r hr h operation)
  exact hstep empty Registry.empty Registry.sorted_empty mirrors_empty

theorem run_concat (e : Exporter) (operations : List Operation) (operation : Operation) :
    e.run (operations ++ [operation]) = (e.run operations).apply operation :=
  List.foldl_concat _ _ _ _

theorem apply_ask_of_mem (operations : List Operation) (kind : Kind) (name : String)
    (hasked : (kind, name) ∈ operations.map Operation.series) :
    (empty.run operations).apply (kind.ask name) = empty.run operations := by
  have h := mirrors_run operations
  have hfiled := (Registry.find?_run operations kind name _).mpr ⟨hasked, rfl⟩
  -- The keys of the series are there, so nothing is added.
  cases kind with
  | trend =>
      have hkey := h.histogram name
      rw [show (Registry.empty.run operations).trends.find? name = some _ from hfiled] at hkey
      exact congrArg Exporter.mk (adjust_of_lookup _ _ _ _ hkey)
  | counter =>
      have hkey := h.counter name
      rw [show (Registry.empty.run operations).counters.find? name = some _ from hfiled] at hkey
      exact congrArg Exporter.mk (adjust_of_lookup _ _ _ _ hkey)
  | check =>
      have hpass := h.result name true
      have hfail := h.result name false
      rw [show (Registry.empty.run operations).checks.find? name = some _ from hfiled]
        at hpass hfail
      refine congrArg Exporter.mk ?_
      unfold register
      rw [adjust_of_lookup _ _ _ _ hpass, adjust_of_lookup _ _ _ _ hfail]
      rfl

end Exporter

end PageSweep
