import Mathlib.Algebra.BigOperators.Group.List.Basic
import Mathlib.Algebra.Ring.Nat
import PageSweep.Metrics.Registry
import PageSweep.Proofs.Catalog

/-!
# What a Registry Holds

After any operations a series holds what was observed under its name: a trend its
samples, a counter the sum of its increments, a check the numbers of its outcomes.
Operations on other names, and on the same name in another kind, do not matter.

The observations of a series are picked out of the list of operations, so a registry
is described by lists, and the order in which different series were written to
disappears.

## Main definitions

* `Registry.Sorted`: The three catalogs are in the order of their names.
* `samplesOf`, `incrementsOf`, `outcomesOf`: The observations of a series.
* `Registry.increased`, `Registry.tallied`: A total or a tally with more of them.

## Theorems

* `sorted_run`: Operations keep a registry sorted.
* `reading_run`: What a run changes, from what a single operation changes.
* `samples_run`: The samples of a trend.
* `total_run`: The total of a counter.
* `tally_run`: The outcomes of a check.
-/

namespace PageSweep

namespace Operation

/-- The sample that an operation adds to a trend. -/
def sample? (name : String) : Operation → Option Float
  | .add other sample => if other = name then some sample else none
  | _ => none

/-- The amount by which an operation increments a counter. -/
def increment? (name : String) : Operation → Option UInt64
  | .increment other amount => if other = name then some amount else none
  | _ => none

/-- The outcome that an operation records with a check. -/
def outcome? (name : String) : Operation → Option Bool
  | .record other passed => if other = name then some passed else none
  | _ => none

end Operation

/-- The samples of a trend among operations. -/
def samplesOf (name : String) (operations : List Operation) : List Float :=
  operations.filterMap (Operation.sample? name)

/-- The increments of a counter among operations. -/
def incrementsOf (name : String) (operations : List Operation) : List UInt64 :=
  operations.filterMap (Operation.increment? name)

/-- The outcomes of a check among operations. -/
def outcomesOf (name : String) (operations : List Operation) : List Bool :=
  operations.filterMap (Operation.outcome? name)

theorem samplesOf_append (name : String) (front back : List Operation) :
    samplesOf name (front ++ back) = samplesOf name front ++ samplesOf name back :=
  List.filterMap_append

theorem mem_samplesOf_iff (name : String) (sample : Float) (operations : List Operation) :
    sample ∈ samplesOf name operations ↔ .add name sample ∈ operations := by
  unfold samplesOf
  rw [List.mem_filterMap]
  constructor
  · rintro ⟨operation, hmem, hsample⟩
    cases operation with
    | add other x =>
        simp only [Operation.sample?] at hsample
        split at hsample
        · next hname => rw [← hname, ← Option.some.inj hsample]; exact hmem
        · exact absurd hsample (by simp only [reduceCtorEq, not_false_eq_true])
    | _ => exact absurd hsample (by simp only [Operation.sample?, reduceCtorEq, not_false_eq_true])
  · intro hmem
    exact ⟨.add name sample, hmem, if_pos rfl⟩

theorem incrementsOf_append (name : String) (front back : List Operation) :
    incrementsOf name (front ++ back) = incrementsOf name front ++ incrementsOf name back :=
  List.filterMap_append

theorem outcomesOf_append (name : String) (front back : List Operation) :
    outcomesOf name (front ++ back) = outcomesOf name front ++ outcomesOf name back :=
  List.filterMap_append

namespace Registry

/-- The three catalogs are in the order of their names. -/
structure Sorted (r : Registry) : Prop where
  trends : Catalog.Ascending r.trends
  counters : Catalog.Ascending r.counters
  checks : Catalog.Ascending r.checks

theorem sorted_empty : Sorted empty :=
  ⟨List.Pairwise.nil, List.Pairwise.nil, List.Pairwise.nil⟩

theorem sorted_apply (r : Registry) (operation : Operation) (hr : r.Sorted) :
    (r.apply operation).Sorted := by
  -- An operation only changes the catalog of its own kind.
  cases operation with
  | trend name => exact ⟨Catalog.ascending_adjust _ _ _ _ hr.trends, hr.counters, hr.checks⟩
  | counter name => exact ⟨hr.trends, Catalog.ascending_adjust _ _ _ _ hr.counters, hr.checks⟩
  | check name => exact ⟨hr.trends, hr.counters, Catalog.ascending_adjust _ _ _ _ hr.checks⟩
  | add name sample => exact ⟨Catalog.ascending_adjust _ _ _ _ hr.trends, hr.counters, hr.checks⟩
  | increment name amount =>
      exact ⟨hr.trends, Catalog.ascending_adjust _ _ _ _ hr.counters, hr.checks⟩
  | record name passed =>
      exact ⟨hr.trends, hr.counters, Catalog.ascending_adjust _ _ _ _ hr.checks⟩

theorem sorted_run (r : Registry) (operations : List Operation) (hr : r.Sorted) :
    (r.run operations).Sorted := by
  induction operations generalizing r with
  | nil => exact hr
  | cons operation rest ih => exact ih _ (sorted_apply r operation hr)

theorem sorted_empty_run (operations : List Operation) : (empty.run operations).Sorted :=
  sorted_run empty operations sorted_empty

/-- A changed entry, read with a default, is the change of what was read before. -/
theorem getD_find?_adjust {α : Type} (name other : String) (start : α) (change : α → α)
    (entries : Catalog α) (hasc : entries.Ascending) :
    ((entries.adjust name start change).find? other).getD start
      = if name = other then change ((entries.find? other).getD start)
        else (entries.find? other).getD start := by
  by_cases h : name = other
  · rw [if_pos h, ← h, Catalog.find?_adjust_self name start change entries hasc, Option.getD_some]
  · have hne : other ≠ name := fun hc => h hc.symm
    rw [if_neg h, Catalog.find?_adjust_of_ne name other start change entries hne]

/-- A reading of the registry that each operation changes by its own observations is
changed by a list of operations by all of theirs. -/
theorem reading_run {β γ : Type} (reading : Registry → β) (observe : Operation → Option γ)
    (change : β → List γ → β) (hnil : ∀ b, change b [] = b)
    (happend : ∀ b front back, change (change b front) back = change b (front ++ back))
    (hstep : ∀ r operation, r.Sorted →
      reading (r.apply operation) = change (reading r) (observe operation).toList)
    (r : Registry) (hr : r.Sorted) (operations : List Operation) :
    reading (r.run operations) = change (reading r) (operations.filterMap observe) := by
  induction operations generalizing r with
  | nil => exact (hnil _).symm
  | cons operation rest ih =>
      -- The first operation has one observation of the series or none.
      have hsplit : (operation :: rest).filterMap observe
          = (observe operation).toList ++ rest.filterMap observe := by
        cases h : observe operation with
        | none => rw [List.filterMap_cons_none h]; rfl
        | some x => rw [List.filterMap_cons_some h]; rfl
      rw [hsplit, ← happend, ← hstep r operation hr]
      exact ih _ (sorted_apply r operation hr)

theorem samples_run (r : Registry) (hr : r.Sorted) (operations : List Operation) (name : String) :
    (r.run operations).samples name
      = (samplesOf name operations).reverse ++ r.samples name := by
  refine reading_run (samples · name) (Operation.sample? name) (fun b xs => xs.reverse ++ b)
    (fun b => rfl) (fun b front back => ?_) (fun r operation hr => ?_) r hr operations
  · rw [List.reverse_append, List.append_assoc]
  · -- Asking for a trend files an empty one, which reads as before.
    cases operation with
    | trend other =>
        exact (getD_find?_adjust other name [] id r.trends hr.trends).trans (ite_self _)
    | add other sample =>
        refine (getD_find?_adjust other name [] (sample :: ·) r.trends hr.trends).trans ?_
        by_cases h : other = name
        · rw [if_pos h, Operation.sample?, if_pos h]
          rfl
        · rw [if_neg h, Operation.sample?, if_neg h]
          rfl
    | _ => rfl

/-- The total with more increments. -/
def increased (total : UInt64) (amounts : List UInt64) : UInt64 :=
  total + UInt64.ofNat (amounts.map UInt64.toNat).sum

theorem increased_nil (total : UInt64) : increased total [] = total :=
  UInt64.add_zero total

theorem increased_append (total : UInt64) (front back : List UInt64) :
    increased (increased total front) back = increased total (front ++ back) := by
  simp only [increased, List.map_append, List.sum_append, UInt64.ofNat_add, UInt64.add_assoc]

theorem increased_perm (total : UInt64) (front back : List UInt64)
    (hperm : front.Perm back) : increased total front = increased total back := by
  unfold increased
  rw [(hperm.map UInt64.toNat).sum_eq]

theorem toNat_increased_zero (amounts : List UInt64) :
    (increased 0 amounts).toNat = (amounts.map UInt64.toNat).sum % 2 ^ 64 := by
  rw [increased, UInt64.zero_add, UInt64.toNat_ofNat']

theorem total_run (r : Registry) (hr : r.Sorted) (operations : List Operation) (name : String) :
    (r.run operations).total name = increased (r.total name) (incrementsOf name operations) := by
  refine reading_run (total · name) (Operation.increment? name) increased increased_nil
    increased_append (fun r operation hr => ?_) r hr operations
  -- Asking for a counter files a zero, and an increment wraps as the sum does.
  cases operation with
  | counter other =>
      refine (getD_find?_adjust other name 0 id r.counters hr.counters).trans ?_
      exact (ite_self _).trans (increased_nil _).symm
  | increment other amount =>
      refine (getD_find?_adjust other name 0 (· + amount) r.counters hr.counters).trans ?_
      by_cases h : other = name
      · rw [if_pos h, Operation.increment?, if_pos h, Option.toList_some, increased,
          List.map_singleton, List.sum_singleton, UInt64.ofNat_toNat]
        rfl
      · rw [if_neg h, Operation.increment?, if_neg h]
        exact (increased_nil _).symm
  | _ => exact (increased_nil _).symm

/-- The tally with more outcomes. -/
def tallied (t : Tally) (outcomes : List Bool) : Tally :=
  ⟨t.passes + UInt64.ofNat (outcomes.count true), t.fails + UInt64.ofNat (outcomes.count false)⟩

theorem tallied_nil (t : Tally) : tallied t [] = t := by
  rw [tallied, List.count_nil, List.count_nil]
  exact congr (congrArg _ (UInt64.add_zero _)) (UInt64.add_zero _)

theorem tallied_append (t : Tally) (front back : List Bool) :
    tallied (tallied t front) back = tallied t (front ++ back) := by
  simp only [tallied, List.count_append, UInt64.ofNat_add, UInt64.add_assoc]

theorem tallied_perm (t : Tally) (front back : List Bool) (hperm : front.Perm back) :
    tallied t front = tallied t back := by
  unfold tallied
  rw [hperm.count_eq, hperm.count_eq]

theorem toNat_passes_tallied_zero (outcomes : List Bool) :
    (tallied Tally.zero outcomes).passes.toNat = outcomes.count true % 2 ^ 64 := by
  simp only [tallied, Tally.zero, UInt64.zero_add, UInt64.toNat_ofNat']

theorem toNat_fails_tallied_zero (outcomes : List Bool) :
    (tallied Tally.zero outcomes).fails.toNat = outcomes.count false % 2 ^ 64 := by
  simp only [tallied, Tally.zero, UInt64.zero_add, UInt64.toNat_ofNat']

theorem tally_run (r : Registry) (hr : r.Sorted) (operations : List Operation) (name : String) :
    (r.run operations).tally name = tallied (r.tally name) (outcomesOf name operations) := by
  refine reading_run (tally · name) (Operation.outcome? name) tallied tallied_nil
    tallied_append (fun r operation hr => ?_) r hr operations
  -- A check counts in one of two words, whichever the outcome says.
  cases operation with
  | check other =>
      refine (getD_find?_adjust other name Tally.zero id r.checks hr.checks).trans ?_
      exact (ite_self _).trans (tallied_nil _).symm
  | record other passed =>
      refine (getD_find?_adjust other name Tally.zero (·.record passed) r.checks hr.checks).trans ?_
      by_cases h : other = name
      · rw [if_pos h, Operation.outcome?, if_pos h]
        cases passed with
        | true => exact congrArg (Tally.mk _) (UInt64.add_zero _).symm
        | false => exact congrArg (fun n => Tally.mk n _) (UInt64.add_zero _).symm
      · rw [if_neg h, Operation.outcome?, if_neg h]
        exact (tallied_nil _).symm
  | _ => exact (tallied_nil _).symm

end Registry

end PageSweep
