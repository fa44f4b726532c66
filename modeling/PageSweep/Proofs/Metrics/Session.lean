import PageSweep.Proofs.Interleaving
import PageSweep.Proofs.Metrics.Store
import PageSweep.Proofs.Report.Entries
import PageSweep.Proofs.Text.Order

/-!
# One Registry and Its Handles

A client asks for series by name, lists the series there are, and observes through any
handle it was given, however long ago and whatever it has done since. Whoever asks for
a name twice gets two handles of one series, so an observation through an old handle is
found through the new one.

To whoever only looks at the names, handles make no difference: the registry is what
the operations alone would have made of it. It lists the names that were asked for, in
the order of their bytes, and an operation on one series leaves all others as they are.
The summary has one entry for each series. There is none if somewhere a sample is not
finite.

## Main definitions

* `Call`: What a client does.
* `Session`, `Session.Step`: A store with the handles given out, and what calls do to it.
* `Session.Valid`: The handles given out are those on file.

## Theorems

* `valid_step`, `valid_steps`: A call keeps a session valid, and so do all calls.
* `unchanged_step`: A call leaves other series as they are.
* `session_refines`: The registry after any calls.
* `collect_infinite`: An infinite sample leaves no summary.
-/

namespace PageSweep

/-- What a client does with a registry, and what it gets. -/
inductive Call where
  | ask (kind : Kind) (name : String) (handle : Handle)
  | list (kind : Kind) (handles : List Handle)
  | observe (kind : Kind) (handle : Handle) (x : kind.Observation)

namespace Call

/-- What a call does to the registry. Listing does nothing. -/
def operations : Call → List Operation
  | .ask kind name _ => [kind.ask name]
  | .list _ _ => []
  | .observe kind handle x => [kind.observation handle.name x]

end Call

/-- All series, and the handles that were given out. -/
structure Session where
  store : Store
  held : List (Kind × Handle)

namespace Session

open Interleaving

/-- Nothing was asked for yet. -/
def start : Session := ⟨Store.empty, []⟩

/-- The calls of a client. It can observe through every handle it was given. -/
inductive Step : Session → Call → Session → Prop where
  | ask (c : Session) (kind : Kind) (name : String) :
      Step c (.ask kind name (c.store.ask kind name).1)
        ⟨(c.store.ask kind name).2, (kind, (c.store.ask kind name).1) :: c.held⟩
  | list (c : Session) (kind : Kind) :
      Step c (.list kind (c.store.listed kind))
        ⟨c.store, (c.store.listed kind).map (fun handle => (kind, handle)) ++ c.held⟩
  | observe (c : Session) (kind : Kind) (handle : Handle) (x : kind.Observation)
      (hheld : (kind, handle) ∈ c.held) :
      Step c (.observe kind handle x) ⟨c.store.observe kind handle x, c.held⟩

/-- That the store holds what the calls did, and that the handles given out are those on
file. -/
structure Valid (calls : List Call) (c : Session) : Prop where
  keeps : c.store.Keeps (calls.flatMap Call.operations)
  held : c.store.Holds c.held
  filed : ∀ kind name handle,
    c.store.look kind name = some handle ↔ .ask kind name handle ∈ calls

theorem valid_start : Valid [] start := by
  refine ⟨Store.keeps_empty, fun _ _ h => absurd h List.not_mem_nil, fun kind name handle => ?_⟩
  constructor
  · intro h
    exact absurd h (by simp [start, Store.empty, Store.look, Catalog.find?])
  · intro h
    exact absurd h List.not_mem_nil

theorem valid_ask (calls : List Call) (c : Session) (hc : Valid calls c) (kind : Kind)
    (name : String) :
    Valid (calls ++ [.ask kind name (c.store.ask kind name).1])
      ⟨(c.store.ask kind name).2, (kind, (c.store.ask kind name).1) :: c.held⟩ := by
  rw [Store.ask_eq_insert]
  have hself := c.store.look_insert_self kind name _ hc.keeps
  have hkeeps := c.store.keeps_insert kind name _ hc.keeps
  have hheld := c.store.holds_insert kind name _ hc.keeps _ hc.held
  refine ⟨?_, hheld, fun other otherName handle => ?_⟩
  · rw [List.flatMap_append, List.flatMap_singleton]
    exact hkeeps
  · rw [List.mem_append, List.mem_singleton, Call.ask.injEq]
    by_cases hseries : (other, otherName) = (kind, name)
    · -- The call gives the handle that is now on file, and so did all before it.
      rw [Prod.mk.injEq] at hseries
      rcases hseries with ⟨rfl, rfl⟩
      rw [hself, Option.some.injEq]
      constructor
      · intro heq
        exact Or.inr ⟨rfl, rfl, heq.symm⟩
      · rintro (hold | ⟨-, -, heq⟩)
        · have hfiled := c.store.look_insert other other otherName otherName _ hc.keeps handle
            ((hc.filed other otherName handle).mpr hold)
          exact Option.some.inj (hself.symm.trans hfiled)
        · exact heq.symm
    · rw [c.store.look_insert_of_ne kind other name otherName _ hc.keeps hseries,
        hc.filed other otherName handle]
      constructor
      · exact Or.inl
      · rintro (hold | ⟨hkind, hname, -⟩)
        · exact hold
        · exact absurd (Prod.ext hkind hname) hseries

theorem valid_list (calls : List Call) (c : Session) (hc : Valid calls c) (kind : Kind) :
    Valid (calls ++ [.list kind (c.store.listed kind)])
      ⟨c.store, (c.store.listed kind).map (fun handle => (kind, handle)) ++ c.held⟩ := by
  refine ⟨?_, fun other handle hmem => ?_, fun other otherName handle => ?_⟩
  · rw [List.flatMap_append, List.flatMap_singleton, Call.operations, List.append_nil]
    exact hc.keeps
  · -- What is listed is on file, and may be used like what was asked for.
    rcases List.mem_append.mp hmem with hlisted | hold
    · rcases List.mem_map.mp hlisted with ⟨another, hmem, heq⟩
      rw [Prod.mk.injEq] at heq
      rcases (c.store.mem_listed kind _ hc.keeps another).mp hmem with ⟨name, hname⟩
      have hsame := c.store.name_of_look kind name _ hc.keeps another hname
      rw [← heq.1, ← heq.2, hsame]
      exact hname
    · exact hc.held other handle hold
  · rw [List.mem_append, List.mem_singleton, hc.filed other otherName handle]
    simp only [reduceCtorEq, or_false]

theorem valid_observe (calls : List Call) (c : Session) (hc : Valid calls c) (kind : Kind)
    (handle : Handle) (x : kind.Observation) (hheld : (kind, handle) ∈ c.held) :
    Valid (calls ++ [.observe kind handle x]) ⟨c.store.observe kind handle x, c.held⟩ := by
  refine ⟨?_, ?_, fun other otherName another => ?_⟩
  · rw [List.flatMap_append, List.flatMap_singleton]
    exact c.store.keeps_observe kind _ hc.keeps handle (hc.held kind handle hheld) x
  · exact c.store.holds_observe kind _ hc.held handle x
  · rw [c.store.look_observe kind other otherName handle x, List.mem_append,
      List.mem_singleton, hc.filed other otherName another]
    simp only [reduceCtorEq, or_false]

theorem valid_step (calls : List Call) (c next : Session) (call : Call) (hc : Valid calls c)
    (hstep : Step c call next) : Valid (calls ++ [call]) next := by
  cases hstep with
  | ask kind name => exact valid_ask calls c hc kind name
  | list kind => exact valid_list calls c hc kind
  | observe kind handle x hheld => exact valid_observe calls c hc kind handle x hheld

theorem valid_steps (calls : List Call) (c : Session) (hsteps : Steps Step start calls c) :
    Valid calls c := by
  induction hsteps with
  | nil => exact valid_start
  | snoc calls call c next _ hstep ih => exact valid_step calls c next call ih hstep

/-- A call changes the series of its own operations, and no other ones. -/
theorem unchanged_step (calls : List Call) (c next : Session) (call : Call) (hc : Valid calls c)
    (hstep : Step c call next) (kind : Kind) (name : String)
    (hother : ∀ operation ∈ call.operations, operation.series ≠ (kind, name)) :
    next.store.look kind name = c.store.look kind name ∧
      ∀ handle, c.store.look kind name = some handle →
        next.store.content kind handle = c.store.content kind handle := by
  have hlook : next.store.look kind name = c.store.look kind name := by
    cases hstep with
    | ask asked askedName =>
        have hne := hother _ (List.mem_singleton_self _)
        rw [Kind.series_ask] at hne
        rw [Store.ask_eq_insert]
        exact c.store.look_insert_of_ne asked kind askedName name _ hc.keeps hne.symm
    | list => rfl
    | observe other handle x => exact c.store.look_observe other kind name handle x
  refine ⟨hlook, fun handle hhandle => ?_⟩
  -- What is found is what was observed, and the call observed nothing here.
  have hnext := (valid_step calls c next call hc hstep).keeps
  rw [List.flatMap_append, List.flatMap_singleton] at hnext
  rw [next.store.content_of_look kind name _ hnext handle (hlook.trans hhandle),
    c.store.content_of_look kind name _ hc.keeps handle hhandle,
    observationsOf_append_of_ne kind name _ _ hother]

section Valid

variable (calls : List Call) (c : Session) (hc : Valid calls c)

include hc

theorem mem_names_iff (kind : Kind) (name : String) :
    name ∈ (c.store.listed kind).map Handle.name ↔ ∃ handle, .ask kind name handle ∈ calls := by
  rw [List.mem_map]
  constructor
  · rintro ⟨handle, hlisted, hname⟩
    rcases (c.store.mem_listed kind _ hc.keeps handle).mp hlisted with ⟨other, hlook⟩
    rw [c.store.name_of_look kind other _ hc.keeps handle hlook] at hname
    rw [hname] at hlook
    exact ⟨handle, (hc.filed kind name handle).mp hlook⟩
  · rintro ⟨handle, hasked⟩
    have hlook := (hc.filed kind name handle).mpr hasked
    exact ⟨handle, (c.store.mem_listed kind _ hc.keeps handle).mpr ⟨name, hlook⟩,
      c.store.name_of_look kind name _ hc.keeps handle hlook⟩

theorem ascending_names (kind : Kind) :
    ((c.store.listed kind).map Handle.name).Pairwise
      fun a b => a.toUTF8.data.toList < b.toUTF8.data.toList := by
  rw [c.store.names_listed kind _ hc.keeps, Store.catalog_registry]
  have hasc := Catalog.pairwise_names _ (Shelf.ascending_contents _ (hc.keeps.sound kind))
  exact hasc.imp fun {a b} => Utf8.toUTF8_lt a b

theorem gathers_of_asked (kind : Kind) (name : String) (handle : Handle)
    (hasked : .ask kind name handle ∈ calls) :
    handle.name = name ∧ c.store.look kind name = some handle ∧
      kind.Gathers (c.store.content kind handle)
        (observationsOf kind name (calls.flatMap Call.operations)) := by
  have hlook := (hc.filed kind name handle).mpr hasked
  refine ⟨c.store.name_of_look kind name _ hc.keeps handle hlook, hlook, ?_⟩
  rw [c.store.content_of_look kind name _ hc.keeps handle hlook]
  exact kind.gathers_gathered _

theorem finite_registry_iff :
    c.store.registry.Finite ↔
      ∀ handle x, Call.observe .trend handle x ∈ calls → Decimal.isFinite x = true := by
  rw [hc.keeps.registry, Registry.finite_run_iff]
  constructor
  · intro h handle x hmem
    exact h handle.name x (List.mem_flatMap.mpr ⟨_, hmem, List.mem_singleton_self _⟩)
  · intro h name x hadd
    rcases List.mem_flatMap.mp hadd with ⟨call, hcall, hmem⟩
    cases call with
    -- Only observing in a trend adds a sample.
    | ask kind other handle => cases kind <;> simp [Call.operations, Kind.ask] at hmem
    | list kind handles => exact absurd hmem List.not_mem_nil
    | observe kind handle sample =>
        cases kind with
        | trend =>
            have hsample : x = sample := (Operation.add.inj (List.mem_singleton.mp hmem)).2
            rw [hsample]
            exact h handle sample hcall
        | counter => simp [Call.operations, Kind.observation] at hmem
        | check => simp [Call.operations, Kind.observation] at hmem

theorem covers_collect (r : Registry) (hr : c.store.registry.Alike r)
    (scenarios : List RunStatistics) (elapsed : Span) (summary : Summary)
    (hcollect : Summary.collect r scenarios elapsed = .ok summary) :
    summary.Covers (fun kind => (c.store.listed kind).map Handle.name)
      (calls.flatMap Call.operations) elapsed := by
  rw [← Summary.collect_alike _ r hr, hc.keeps.registry] at hcollect
  have hcovers := Summary.covers_run _ scenarios elapsed summary hcollect
  have hnames : (fun kind => (c.store.listed kind).map Handle.name)
      = fun kind => ((Registry.empty.run (calls.flatMap Call.operations)).catalog kind).names :=
    funext fun kind => by rw [c.store.names_listed kind _ hc.keeps, hc.keeps.registry]
  rw [hnames]
  exact hcovers

end Valid

/-- After any calls, the names listed in a kind are those that were asked for, in the
order of their bytes. All handles of a name are one, and what is found through it is
what was observed under the name. A further call leaves all series but its own as they
are. To whoever looks at the names only, the registry is the one that the operations
alone lead to. And the summary, in whatever order the samples are read, lists every
series once, unless a sample is not finite: then there is none. -/
theorem session_refines (calls : List Call) (c : Session) (hrun : Steps Step start calls c)
    (scenarios : List RunStatistics) (elapsed : Span) :
    (∀ kind, ((c.store.listed kind).map Handle.name).Pairwise
        (fun a b => a.toUTF8.data.toList < b.toUTF8.data.toList) ∧
      ∀ name, name ∈ (c.store.listed kind).map Handle.name ↔
        ∃ handle, .ask kind name handle ∈ calls) ∧
    (∀ kind name handle, .ask kind name handle ∈ calls →
      handle.name = name ∧ c.store.look kind name = some handle ∧
        kind.Gathers (c.store.content kind handle)
          (observationsOf kind name (calls.flatMap Call.operations))) ∧
    (∀ call next, Step c call next → ∀ kind name,
      (∀ operation ∈ call.operations, operation.series ≠ (kind, name)) →
        next.store.look kind name = c.store.look kind name ∧
        ∀ handle, c.store.look kind name = some handle →
          next.store.content kind handle = c.store.content kind handle) ∧
    c.store.registry = Registry.empty.run (calls.flatMap Call.operations) ∧
    ∀ r, c.store.registry.Alike r →
      ((∀ handle x, Call.observe .trend handle x ∈ calls → Decimal.isFinite x = true) →
        ∃ summary, Summary.collect r scenarios elapsed = .ok summary ∧
          summary.Covers (fun kind => (c.store.listed kind).map Handle.name)
            (calls.flatMap Call.operations) elapsed) ∧
      (¬ (∀ handle x, Call.observe .trend handle x ∈ calls → Decimal.isFinite x = true) →
        Summary.collect r scenarios elapsed = .error .notFinite) := by
  have hc := valid_steps calls c hrun
  refine ⟨fun kind => ⟨ascending_names calls c hc kind, mem_names_iff calls c hc kind⟩,
    gathers_of_asked calls c hc, fun call next hstep => unchanged_step calls c next call hc hstep,
    hc.keeps.registry, fun r hr => ⟨fun hfinite => ?_, fun hfinite => ?_⟩⟩
  · have hregistry := (finite_registry_iff calls c hc).mpr hfinite
    rcases Summary.exists_collect _ hregistry scenarios elapsed with ⟨summary, hsummary⟩
    rw [Summary.collect_alike _ r hr] at hsummary
    exact ⟨summary, hsummary, covers_collect calls c hc r hr scenarios elapsed summary hsummary⟩
  · rw [← finite_registry_iff calls c hc] at hfinite
    rw [← Summary.collect_alike _ r hr]
    exact Summary.collect_of_not_finite _ hfinite scenarios elapsed

/-- A trend is asked for twice, and observed through the old handle and through the new
one. Beside it stand another trend and a counter of the same name. -/
def sharedCalls : List Call :=
  [.ask .trend "b" ⟨"b", 0⟩, .ask .trend "a" ⟨"a", 1⟩, .ask .counter "b" ⟨"b", 0⟩,
    .observe .trend ⟨"b", 0⟩ (2.5 : Float), .ask .trend "b" ⟨"b", 0⟩,
    .observe .counter ⟨"b", 0⟩ (7 : UInt64), .observe .trend ⟨"b", 0⟩ (1.5 : Float)]

theorem session_refines_shared :
    ∃ c, Steps Step start sharedCalls c ∧
      (∀ name, name ∈ (c.store.listed .trend).map Handle.name ↔
        ∃ handle, .ask .trend name handle ∈ sharedCalls) ∧
      Kind.trend.Gathers (c.store.content .trend ⟨"b", 0⟩) ([2.5, 1.5] : List Float) ∧
      Kind.counter.Gathers (c.store.content .counter ⟨"b", 0⟩) ([7] : List UInt64) ∧
      ∃ summary, Summary.collect c.store.registry [] Span.zero = .ok summary ∧
        summary.Covers (fun kind => (c.store.listed kind).map Handle.name)
          (sharedCalls.flatMap Call.operations) Span.zero := by
  have h1 := Steps.snoc [] _ _ _ Steps.nil (Step.ask start .trend "b")
  have h2 := Steps.snoc _ _ _ _ h1 (Step.ask _ .trend "a")
  have h3 := Steps.snoc _ _ _ _ h2 (Step.ask _ .counter "b")
  have h4 := Steps.snoc _ _ _ _ h3 (Step.observe _ .trend ⟨"b", 0⟩ (2.5 : Float)
    (List.mem_cons_of_mem _ (List.mem_cons_of_mem _ List.mem_cons_self)))
  have h5 := Steps.snoc _ _ _ _ h4 (Step.ask _ .trend "b")
  have h6 := Steps.snoc _ _ _ _ h5 (Step.observe _ .counter ⟨"b", 0⟩ (7 : UInt64)
    (List.mem_cons_of_mem _ List.mem_cons_self))
  have h7 := Steps.snoc _ _ _ _ h6 (Step.observe _ .trend ⟨"b", 0⟩ (1.5 : Float)
    List.mem_cons_self)
  have hrun : Steps Step start sharedCalls _ := h7
  rcases session_refines sharedCalls _ hrun [] Span.zero with ⟨hnames, hgathers, -, -, hcollect⟩
  refine ⟨_, hrun, (hnames .trend).2, ?_, ?_, ?_⟩
  · exact (hgathers .trend "b" ⟨"b", 0⟩ List.mem_cons_self).2.2
  · exact (hgathers .counter "b" ⟨"b", 0⟩ (by simp [sharedCalls])).2.2
  · refine (hcollect _ (Registry.alike_refl _)).1 fun handle x hx => ?_
    simp only [sharedCalls, List.mem_cons, List.not_mem_nil, reduceCtorEq, or_false,
      false_or] at hx
    rcases hx with h | h | h
    · have hx : x = (2.5 : Float) := eq_of_heq (Call.observe.inj h).2.2
      rw [hx]
      decide
    · exact absurd (Call.observe.inj h).1 (by decide)
    · have hx : x = (1.5 : Float) := eq_of_heq (Call.observe.inj h).2.2
      rw [hx]
      decide

/-- An infinite sample leaves no summary, so also no entry for its trend. -/
theorem collect_infinite :
    ∃ c, Steps Step start
        [.ask .trend "t" ⟨"t", 0⟩, .observe .trend ⟨"t", 0⟩ (1.0 / 0.0 : Float)] c ∧
      c.store.look .trend "t" = some ⟨"t", 0⟩ ∧
      ¬ ∃ summary, Summary.collect c.store.registry [] Span.zero = .ok summary ∧
        ∃ trend ∈ summary.trends, trend.name = "t" := by
  have h1 := Steps.snoc [] _ _ _ Steps.nil (Step.ask start .trend "t")
  have h2 := Steps.snoc _ _ _ _ h1 (Step.observe _ .trend ⟨"t", 0⟩ (1.0 / 0.0 : Float)
    List.mem_cons_self)
  refine ⟨_, h2, by decide, ?_⟩
  rintro ⟨summary, hsummary, -⟩
  rw [Summary.collect_of_not_finite] at hsummary
  · exact absurd hsummary (by simp only [reduceCtorEq, not_false_eq_true])
  · intro hfinite
    have hsample := hfinite ("t", [1.0 / 0.0]) List.mem_cons_self (1.0 / 0.0) List.mem_cons_self
    exact absurd hsample (by decide)

end Session

end PageSweep
