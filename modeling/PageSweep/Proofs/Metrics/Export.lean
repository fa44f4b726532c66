import PageSweep.Proofs.Metrics.Session

/-!
# Memory and Exporter Agree

An observation through a handle is written twice: to the place of the handle, and to
the exporter. The two are kept apart and filed differently, one by kind and name, the
other by keys with labels. Yet at no point of a session does the exporter show anything
but what is in memory: no write goes to one of them only, none goes to a wrong key, and
no key stands for two series.

## Theorems

* `mirrors_session`: The exporter of a session shows what its store holds.
* `session_exported`: The same, spelled out key by key.
-/

namespace PageSweep

namespace Session

open Interleaving

section Valid

variable (calls : List Call) (c : Session) (hc : Valid calls c)

include hc

theorem mirrors_session : c.store.exporter.Mirrors c.store.registry := by
  rw [hc.keeps.exporter, hc.keeps.registry]
  exact Exporter.mirrors_run _

omit hc in
theorem find?_of_look (kind : Kind) (name : String) (handle : Handle)
    (hlook : c.store.look kind name = some handle) :
    (c.store.registry.catalog kind).find? name = some (c.store.content kind handle) := by
  rw [c.store.find?_registry, hlook, Option.map_some]

/-- Every key of the exporter is one of a series on file. -/
theorem look_of_key (key : Exporter.Key)
    (hkey : key ∈ c.store.exporter.series.map Prod.fst) :
    ∃ kind name handle, c.store.look kind name = some handle ∧ key ∈ kind.keys name := by
  have hmirrors := mirrors_session calls c hc
  have hsome : (c.store.exporter.find? key).isSome = true := Exporter.isSome_lookup key _ hkey
  -- What is shown under the key was found in the registry, so it is on file.
  have hfiled : ∀ kind name, ((c.store.registry.catalog kind).find? name).isSome = true →
      ∃ handle, c.store.look kind name = some handle := by
    intro kind name h
    rw [c.store.find?_registry, Option.isSome_map] at h
    exact Option.isSome_iff_exists.mp h
  rcases hmirrors.only key hkey with ⟨name, rfl⟩ | ⟨name, rfl⟩ | ⟨name, passed, rfl⟩
  · rw [hmirrors.histogram name, Option.isSome_map] at hsome
    rcases hfiled .trend name hsome with ⟨handle, hlook⟩
    exact ⟨.trend, name, handle, hlook, List.mem_singleton_self _⟩
  · rw [hmirrors.counter name, Option.isSome_map] at hsome
    rcases hfiled .counter name hsome with ⟨handle, hlook⟩
    exact ⟨.counter, name, handle, hlook, List.mem_singleton_self _⟩
  · rw [hmirrors.result name passed, Option.isSome_map] at hsome
    rcases hfiled .check name hsome with ⟨handle, hlook⟩
    refine ⟨.check, name, handle, hlook, ?_⟩
    cases passed with
    | true => exact List.mem_cons_self
    | false => exact List.mem_cons_of_mem _ (List.mem_singleton_self _)

end Valid

/-- After any calls, the exporter shows each trend as a histogram of its name, each
counter as a counter of its name without labels, and each check as two counters, one
for each result, all with what is found through the handles. It shows nothing else,
every key once, and no two series have a key in common. It is the exporter that the
operations alone lead to. -/
theorem session_exported (calls : List Call) (c : Session) (hrun : Steps Step start calls c) :
    (∀ name handle, c.store.look .trend name = some handle →
      ∃ samples : List Float, c.store.exporter.find? (.histogram name) = some (.values samples) ∧
        samples.Perm (c.store.content .trend handle)) ∧
    (∀ name handle, c.store.look .counter name = some handle →
      c.store.exporter.find? (.counter name [])
        = some (.total (c.store.content .counter handle))) ∧
    (∀ name handle, c.store.look .check name = some handle →
      let t : Tally := c.store.content .check handle
      c.store.exporter.find? (.counter "checks" [("check", name), ("result", "pass")])
          = some (.total t.passes) ∧
        c.store.exporter.find? (.counter "checks" [("check", name), ("result", "fail")])
          = some (.total t.fails)) ∧
    (∀ key ∈ c.store.exporter.series.map Prod.fst,
      ∃ kind name handle, c.store.look kind name = some handle ∧ key ∈ kind.keys name) ∧
    (c.store.exporter.series.map Prod.fst).Nodup ∧
    (∀ kind other name otherName key, key ∈ Kind.keys kind name → key ∈ Kind.keys other otherName →
      kind = other ∧ name = otherName) ∧
    c.store.exporter = Exporter.empty.run (calls.flatMap Call.operations) := by
  have hc := valid_steps calls c hrun
  have hmirrors := mirrors_session calls c hc
  refine ⟨fun name handle hlook => ?_, fun name handle hlook => ?_, fun name handle hlook => ?_,
    look_of_key calls c hc, hmirrors.nodup, fun kind other name otherName key hkey hother =>
      Exporter.keys_disjoint kind other name otherName key hkey hother, hc.keeps.exporter⟩
  · have hfind : c.store.registry.trends.find? name = _ := find?_of_look c .trend name handle hlook
    refine ⟨c.store.content .trend handle, ?_, List.Perm.refl _⟩
    exact (hmirrors.histogram name).trans (congrArg (Option.map Exporter.Reading.values) hfind)
  · have hfind : c.store.registry.counters.find? name = _ :=
      find?_of_look c .counter name handle hlook
    exact (hmirrors.counter name).trans (congrArg (Option.map Exporter.Reading.total) hfind)
  · have hfind : c.store.registry.checks.find? name = _ := find?_of_look c .check name handle hlook
    have hresult : ∀ passed, c.store.exporter.find? (Exporter.resultKey name passed)
        = some (Exporter.shown passed (c.store.content .check handle)) := fun passed =>
      (hmirrors.result name passed).trans (congrArg (Option.map (Exporter.shown passed)) hfind)
    exact ⟨hresult true, hresult false⟩

/-- A check, and a counter with the name under which checks are exported. -/
def clashingCalls : List Call :=
  [.ask .check "200" ⟨"200", 0⟩, .ask .counter "checks" ⟨"checks", 0⟩,
    .observe .check ⟨"200", 0⟩ false, .observe .counter ⟨"checks", 0⟩ (3 : UInt64),
    .observe .check ⟨"200", 0⟩ false]

theorem session_exported_clashing :
    ∃ c, Steps Step start clashingCalls c ∧
      c.store.exporter.find? (.counter "checks" []) = some (.total 3) ∧
      c.store.exporter.find? (.counter "checks" [("check", "200"), ("result", "fail")])
        = some (.total 2) ∧
      (c.store.exporter.series.map Prod.fst).Nodup := by
  have h1 := Steps.snoc [] _ _ _ Steps.nil (Step.ask start .check "200")
  have h2 := Steps.snoc _ _ _ _ h1 (Step.ask _ .counter "checks")
  have h3 := Steps.snoc _ _ _ _ h2 (Step.observe _ .check ⟨"200", 0⟩ false
    (List.mem_cons_of_mem _ List.mem_cons_self))
  have h4 := Steps.snoc _ _ _ _ h3 (Step.observe _ .counter ⟨"checks", 0⟩ (3 : UInt64)
    List.mem_cons_self)
  have h5 := Steps.snoc _ _ _ _ h4 (Step.observe _ .check ⟨"200", 0⟩ false
    (List.mem_cons_of_mem _ List.mem_cons_self))
  have hrun : Steps Step start clashingCalls _ := h5
  rcases session_exported clashingCalls _ hrun with ⟨-, hcounters, hchecks, -, hnodup, -, -⟩
  exact ⟨_, hrun, hcounters "checks" ⟨"checks", 0⟩ (by decide),
    (hchecks "200" ⟨"200", 0⟩ (by decide)).2, hnodup⟩

end Session

end PageSweep
