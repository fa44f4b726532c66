import PageSweep.Proofs.Metrics.Registry

/-!
# Kinds of Series

Trends, counters and checks differ in what they hold and in what is observed, and are
alike in everything else: a series of each kind is made when its name is asked for, and
takes up every observation under its name. So a registry is read here as one catalog
for each kind, and an operation as asking for a series or as an observation in one.

## Main definitions

* `Kind`: Trend, counter or check.
* `Kind.Content`, `Kind.Observation`: What a series holds, and what is observed in it.
* `Kind.ask`, `Kind.observation`: The operations on series of a kind.
* `Registry.catalog`: The series of a kind.
* `observationsOf`, `Kind.gathered`: The observations of a series, and what a series
  holds after them.
* `Kind.Gathers`: What it holds, said without the order of the observations.

## Theorems

* `gathers_gathered`: What a series holds after observations.
* `observationsOf_append_of_ne`: Operations on other series do not matter.
* `catalog_ask`, `catalog_observation`: The catalogs after an operation.
* `find?_run`, `mem_run_iff`: What is found and listed in a registry after operations.
* `apply_ask_of_mem`: Asking once more for a series does nothing.
-/

namespace PageSweep

/-- Trend, counter or check. -/
inductive Kind where
  | trend
  | counter
  | check
  deriving DecidableEq

namespace Kind

/-- What a series holds. -/
def Content : Kind → Type
  | .trend => List Float
  | .counter => UInt64
  | .check => Tally

/-- What is observed in a series. -/
def Observation : Kind → Type
  | .trend => Float
  | .counter => UInt64
  | .check => Bool

/-- What a new series holds. -/
def fresh : (kind : Kind) → kind.Content
  | .trend => ([] : List Float)
  | .counter => (0 : UInt64)
  | .check => Tally.zero

/-- What a series holds after one more observation. -/
def observe : (kind : Kind) → kind.Observation → kind.Content → kind.Content
  | .trend => fun (sample : Float) (samples : List Float) => sample :: samples
  | .counter => fun (amount total : UInt64) => total + amount
  | .check => fun (passed : Bool) (t : Tally) => t.record passed

/-- Asking for a series. -/
def ask : Kind → String → Operation
  | .trend, name => .trend name
  | .counter, name => .counter name
  | .check, name => .check name

/-- An observation in a series. -/
def observation : (kind : Kind) → String → kind.Observation → Operation
  | .trend, name => fun (sample : Float) => .add name sample
  | .counter, name => fun (amount : UInt64) => .increment name amount
  | .check, name => fun (passed : Bool) => .record name passed

/-- What a series holds after observations, the first one first. -/
def gathered : (kind : Kind) → List kind.Observation → kind.Content
  | .trend => fun (samples : List Float) => samples.reverse
  | .counter => fun (amounts : List UInt64) => Registry.increased 0 amounts
  | .check => fun (outcomes : List Bool) => Registry.tallied Tally.zero outcomes

/-- That a series holds what was observed: a trend the samples in any order, a counter
the sum of the amounts, a check the numbers of its outcomes, both in 64 bits. -/
def Gathers : (kind : Kind) → kind.Content → List kind.Observation → Prop
  | .trend => fun (samples added : List Float) => samples.Perm added
  | .counter => fun (total : UInt64) (amounts : List UInt64) =>
      total.toNat = (amounts.map UInt64.toNat).sum % 2 ^ 64
  | .check => fun (t : Tally) (outcomes : List Bool) =>
      t.passes.toNat = outcomes.count true % 2 ^ 64 ∧
      t.fails.toNat = outcomes.count false % 2 ^ 64

theorem gathers_gathered (kind : Kind) (observations : List kind.Observation) :
    kind.Gathers (kind.gathered observations) observations := by
  cases kind with
  | trend => exact List.reverse_perm _
  | counter => exact Registry.toNat_increased_zero _
  | check => exact ⟨Registry.toNat_passes_tallied_zero _, Registry.toNat_fails_tallied_zero _⟩

end Kind

/-- What an operation observes in a series. -/
def Operation.observed? : (kind : Kind) → String → Operation → Option kind.Observation
  | .trend => Operation.sample?
  | .counter => Operation.increment?
  | .check => Operation.outcome?

/-- The observations of a series among operations. -/
def observationsOf (kind : Kind) (name : String) (operations : List Operation) :
    List kind.Observation :=
  operations.filterMap (Operation.observed? kind name)

/-- The series that an operation asks for, by itself or with an observation. -/
def Operation.series : Operation → Kind × String
  | .trend name | .add name _ => (.trend, name)
  | .counter name | .increment name _ => (.counter, name)
  | .check name | .record name _ => (.check, name)

theorem Kind.series_ask (kind : Kind) (name : String) :
    (kind.ask name).series = (kind, name) := by
  cases kind <;> rfl

theorem Kind.series_observation (kind : Kind) (name : String) (x : kind.Observation) :
    (kind.observation name x).series = (kind, name) := by
  cases kind <;> rfl

theorem Operation.observed?_of_ne (kind : Kind) (name : String) (operation : Operation)
    (hne : operation.series ≠ (kind, name)) : operation.observed? kind name = none := by
  cases kind <;> cases operation
  case trend.add => exact if_neg fun h => hne (congrArg _ h)
  case counter.increment => exact if_neg fun h => hne (congrArg _ h)
  case check.record => exact if_neg fun h => hne (congrArg _ h)
  all_goals rfl

/-- Operations on other series observe nothing in this one. -/
theorem observationsOf_append_of_ne (kind : Kind) (name : String) (front back : List Operation)
    (hne : ∀ operation ∈ back, operation.series ≠ (kind, name)) :
    observationsOf kind name (front ++ back) = observationsOf kind name front := by
  unfold observationsOf
  rw [List.filterMap_append, List.append_right_eq_self, List.filterMap_eq_nil_iff]
  exact fun operation hoperation => operation.observed?_of_ne kind name (hne operation hoperation)

namespace Registry

/-- The series of a kind. -/
def catalog (r : Registry) : (kind : Kind) → Catalog kind.Content
  | .trend => r.trends
  | .counter => r.counters
  | .check => r.checks

theorem ext_catalog (r s : Registry) (h : ∀ kind, r.catalog kind = s.catalog kind) : r = s := by
  rcases r with ⟨trends, counters, checks⟩
  rcases s with ⟨otherTrends, otherCounters, otherChecks⟩
  have htrends : trends = otherTrends := h .trend
  have hcounters : counters = otherCounters := h .counter
  have hchecks : checks = otherChecks := h .check
  rw [htrends, hcounters, hchecks]

theorem ascending_catalog (r : Registry) (hr : r.Sorted) (kind : Kind) :
    (r.catalog kind).Ascending := by
  cases kind with
  | trend => exact hr.trends
  | counter => exact hr.counters
  | check => exact hr.checks

theorem catalog_ask (r : Registry) (kind : Kind) (name : String) :
    (r.apply (kind.ask name)).catalog kind = (r.catalog kind).adjust name kind.fresh id := by
  cases kind <;> rfl

theorem catalog_ask_of_ne (r : Registry) (kind other : Kind) (name : String)
    (hne : other ≠ kind) : (r.apply (kind.ask name)).catalog other = r.catalog other := by
  cases kind <;> cases other <;> first | rfl | exact absurd rfl hne

theorem catalog_observation (r : Registry) (kind : Kind) (name : String) (x : kind.Observation) :
    (r.apply (kind.observation name x)).catalog kind
      = (r.catalog kind).adjust name kind.fresh (kind.observe x) := by
  cases kind <;> rfl

theorem catalog_observation_of_ne (r : Registry) (kind other : Kind) (name : String)
    (x : kind.Observation) (hne : other ≠ kind) :
    (r.apply (kind.observation name x)).catalog other = r.catalog other := by
  cases kind <;> cases other <;> first | rfl | exact absurd rfl hne

/-- Every operation asks for a series of some kind or is an observation in one. -/
theorem operation_cases (operation : Operation) :
    (∃ kind name, operation = Kind.ask kind name) ∨
      ∃ kind name x, operation = Kind.observation kind name x := by
  cases operation with
  | trend name => exact Or.inl ⟨.trend, name, rfl⟩
  | counter name => exact Or.inl ⟨.counter, name, rfl⟩
  | check name => exact Or.inl ⟨.check, name, rfl⟩
  | add name sample => exact Or.inr ⟨.trend, name, sample, rfl⟩
  | increment name amount => exact Or.inr ⟨.counter, name, amount, rfl⟩
  | record name passed => exact Or.inr ⟨.check, name, passed, rfl⟩

theorem found_apply (r : Registry) (hr : r.Sorted) (operation : Operation) (kind : Kind)
    (name : String) :
    (∃ content, ((r.apply operation).catalog kind).find? name = some content) ↔
      (∃ content, (r.catalog kind).find? name = some content) ∨
        (kind, name) = operation.series := by
  -- Either way only the catalog of the operation's own kind can change.
  rcases operation_cases operation with ⟨other, otherName, rfl⟩ | ⟨other, otherName, x, rfl⟩
  · rw [Kind.series_ask, Prod.mk.injEq]
    by_cases h : kind = other
    · subst h
      rw [catalog_ask, Catalog.found_adjust _ _ _ _ _ (ascending_catalog r hr kind)]
      simp only [true_and]
    · rw [catalog_ask_of_ne r other kind otherName h]
      simp only [h, false_and, or_false]
  · rw [Kind.series_observation, Prod.mk.injEq]
    by_cases h : kind = other
    · subst h
      rw [catalog_observation, Catalog.found_adjust _ _ _ _ _ (ascending_catalog r hr kind)]
      simp only [true_and]
    · rw [catalog_observation_of_ne r other kind otherName x h]
      simp only [h, false_and, or_false]

/-- The series of a registry are those that were asked for. -/
theorem found_run (r : Registry) (hr : r.Sorted) (operations : List Operation) (kind : Kind)
    (name : String) :
    (∃ content, ((r.run operations).catalog kind).find? name = some content) ↔
      (∃ content, (r.catalog kind).find? name = some content) ∨
        (kind, name) ∈ operations.map Operation.series := by
  induction operations generalizing r with
  | nil => simp only [run, List.foldl_nil, List.map_nil, List.not_mem_nil, or_false]
  | cons operation rest ih =>
      have hrest := ih (r.apply operation) (sorted_apply r operation hr)
      rw [found_apply r hr, or_assoc] at hrest
      rw [List.map_cons, List.mem_cons]
      exact hrest

theorem getD_find?_run (operations : List Operation) (kind : Kind) (name : String) :
    (((empty.run operations).catalog kind).find? name).getD kind.fresh
      = kind.gathered (observationsOf kind name operations) := by
  cases kind with
  | trend => exact (samples_run empty sorted_empty operations name).trans (List.append_nil _)
  | counter => exact total_run empty sorted_empty operations name
  | check => exact tally_run empty sorted_empty operations name

theorem find?_run (operations : List Operation) (kind : Kind) (name : String)
    (content : kind.Content) :
    ((empty.run operations).catalog kind).find? name = some content ↔
      (kind, name) ∈ operations.map Operation.series ∧
        content = kind.gathered (observationsOf kind name operations) := by
  have hfound := found_run empty sorted_empty operations kind name
  have hcontent := getD_find?_run operations kind name
  have hempty : ¬ ∃ content, (empty.catalog kind).find? name = some content := by
    cases kind <;> simp [empty, catalog, Catalog.find?]
  -- The catalogs are read with a default, so whether a series is there at all is
  -- known apart from what it holds.
  rw [or_iff_right hempty] at hfound
  constructor
  · intro h
    exact ⟨hfound.mp ⟨content, h⟩, by rw [← hcontent, h, Option.getD_some]⟩
  · rintro ⟨hasked, heq⟩
    rcases hfound.mpr hasked with ⟨other, hother⟩
    rw [heq, ← hcontent, hother, Option.getD_some]

theorem mem_run_iff (operations : List Operation) (kind : Kind) (name : String)
    (content : kind.Content) :
    (name, content) ∈ (empty.run operations).catalog kind ↔
      (kind, name) ∈ operations.map Operation.series ∧
        content = kind.gathered (observationsOf kind name operations) := by
  rw [← find?_run, Catalog.find?_eq_some_iff]
  exact ascending_catalog _ (sorted_empty_run operations) kind

theorem run_concat (r : Registry) (operations : List Operation) (operation : Operation) :
    r.run (operations ++ [operation]) = (r.run operations).apply operation :=
  List.foldl_concat _ _ _ _

theorem apply_ask_of_mem (operations : List Operation) (kind : Kind) (name : String)
    (hasked : (kind, name) ∈ operations.map Operation.series) :
    (empty.run operations).apply (kind.ask name) = empty.run operations := by
  have hasc := ascending_catalog _ (sorted_empty_run operations) kind
  refine ext_catalog _ _ fun other => ?_
  by_cases hkind : other = kind
  · subst hkind
    rw [catalog_ask]
    refine Catalog.ext_of_find? _ _ (Catalog.ascending_adjust _ _ _ _ hasc) hasc fun otherName => ?_
    by_cases hname : otherName = name
    · -- The entry is there already, and asking does not change it.
      subst hname
      rw [Catalog.find?_adjust_self _ _ _ _ hasc, (find?_run _ _ _ _).mpr ⟨hasked, rfl⟩,
        Option.getD_some, id]
    · exact Catalog.find?_adjust_of_ne _ _ _ _ _ hname
  · exact catalog_ask_of_ne _ _ _ _ hkind

end Registry

end PageSweep
