import Mathlib.Data.Fintype.Sum
import PageSweep.Proofs.Bench.Turns

/-!
# The Accounts of a Bench Run

What the summary of a bench run says fits together: the samples of a shape are its
iterations, its pages lie between the iterations and the cap for each of them, and the
pages of both shapes, the outcomes of the status check and the requests are the same
number. This holds for every run of users, in whatever order they take their steps,
and so for every bench run.

## Main definitions

* `Client.Quiet`, `Client.IsHttp`: What the client itself reports.
* `benchUsers`: The users of a bench run.
* `AllStopped`: The events say that every user has stopped.
* `iterationsIn`: The iterations of a shape in the statistics of a run.

## Theorems

* `follows_start`: Before the first turn.
* `ended_of_run`: A bench run is a run of its users to the end.
* `run_accounts`: The accounts of every run.
-/

namespace PageSweep

namespace Bench

open Interleaving

variable {σ : Type}

/-- The client itself reports nothing to a series of a flow. -/
structure Client.Quiet (client : Client σ) : Prop where
  observe : ∀ reply, Flow.Quiet (client.observe reply)
  register : Flow.Quiet client.register

/-- The client reports what the HTTP client reports. -/
structure Client.IsHttp (client : Client σ) : Prop where
  observe : client.observe = Http.report
  register : client.register = Http.register

theorem Client.IsHttp.quiet (client : Client σ) (h : client.IsHttp) : client.Quiet := by
  refine ⟨?_, ?_⟩
  · rw [h.observe]
    exact Http.quiet_report
  · rw [h.register]
    exact Http.quiet_register

theorem quiet_preparation (client : Client σ) (hquiet : client.Quiet) :
    Flow.Quiet (preparation client) :=
  Flow.quiet_append _ _ hquiet.register
    (Flow.quiet_append _ _ (Flow.quiet_register Flow.lastDay)
      (Flow.quiet_append _ _ (Flow.quiet_register Flow.lastMonth) Flow.quiet_nil))

/-- The accounts of any run of users to the end. -/
theorem accounts_of_runs {ι : Type} [DecidableEq ι] (client : Client σ) (hquiet : client.Quiet)
    (config : Config) (kinds : ι → Flow.Shape) (trace : List (ι × User.Act))
    (world : Interleaving.World ι User) (users : Finset ι)
    (hended : Ended client.observe config kinds (preparation client) trace world users)
    (hkinds : ∀ i ∈ users, kinds i ∈ shapes) (hlt : requests trace < 2 ^ 64) :
    Accounts config.maxPages.val (requests trace) (iterations kinds trace) world.registry ∧
    (client.IsHttp → HttpAccounts (requests trace) world.registry) := by
  refine ⟨accounts_of_ended hended hquiet.observe (quiet_preparation client hquiet) hkinds hlt,
    fun hhttp => ?_⟩
  have hbefore := quiet_preparation client hquiet
  rw [hhttp.observe, preparation, hhttp.register] at hended
  rw [preparation, hhttp.register] at hbefore
  exact httpAccounts_of_ended hended hbefore rfl rfl rfl hlt

/-- The users of a bench run: those of both scenarios, counted from one. -/
def benchUsers (config : Config) : Finset (Nat × Nat) :=
  Finset.range 2 ×ˢ Finset.Icc 1 config.vus.val

theorem shapes_of_benchUsers (config : Config) (i : Nat × Nat) (hi : i ∈ benchUsers config) :
    shapes[i.1]? = some (crewShape i) := by
  have hcrew : i.1 < 2 := Finset.mem_range.mp (Finset.mem_product.mp hi).1
  have hlength : i.1 < shapes.length := hcrew
  rw [crewShape, List.getElem?_eq_getElem hlength]
  rfl

/-- The tasks of a scenario are its users, none of which has begun. -/
theorem crew_tasks (config : Config) (index : Nat) (hindex : index < 2) (name : String)
    (task : Executor.Task Pending)
    (htask : task ∈ Executor.crew index (config.scenario name)) :
    task.work = none ∧ userKey task ∈ benchUsers config := by
  rcases List.mem_map.mp htask with ⟨user, huser, rfl⟩
  refine ⟨rfl, ?_⟩
  rcases List.mem_range'_1.mp huser with ⟨hfirst, hlast⟩
  have hvus : (config.scenario name).vus.val = config.vus.val := rfl
  exact Finset.mem_product.mpr ⟨Finset.mem_range.mpr hindex,
    Finset.mem_Icc.mpr ⟨hfirst, by rw [hvus] at hlast; simp only [userKey]; omega⟩⟩

/-- Before the first turn, all users are between two flows. -/
theorem follows_start (client : Client σ) (config : Config) (server : σ) :
    Follows client config (preparation client) (benchUsers config)
      ⟨Executor.crews 0 (scenariosOf config),
        ⟨(server, 0), Registry.empty.run (preparation client)⟩, []⟩ []
      (usersAtRest (Nat × Nat) (preparation client)) := by
  have hcrews : Executor.crews (α := Pending) 0 (scenariosOf config)
      = Executor.crew 0 (config.scenario Flow.lastDay.name)
        ++ (Executor.crew 1 (config.scenario Flow.lastMonth.name) ++ []) := rfl
  -- All tasks are users of one of the two scenarios, and no work is under way.
  have htasks : ∀ task ∈ Executor.crews (α := Pending) 0 (scenariosOf config),
      task.work = none ∧ userKey task ∈ benchUsers config := by
    intro task htask
    rw [hcrews, List.append_nil] at htask
    rcases List.mem_append.mp htask with h | h
    · exact crew_tasks config 0 (by decide) _ task h
    · exact crew_tasks config 1 (by decide) _ task h
  refine ⟨Run.nil, fun _ h => absurd h List.not_mem_nil, rfl, rfl, fun task htask => ?_, ?_,
    fun _ => rfl, fun _ _ _ h => absurd h List.not_mem_nil⟩
  · rcases htasks task htask with ⟨hwork, huser⟩
    refine ⟨huser, ?_, fun pending h => ?_⟩
    · rw [userOf, hwork]
      rfl
    · rw [hwork] at h
      exact absurd h (by simp only [reduceCtorEq, not_false_eq_true])
  · exact Executor.nodup_crews (scenariosOf config) 0

/-- The events say that every user has stopped, so none of them has crashed. -/
def AllStopped (config : Config) (events : List Executor.Event) : Prop :=
  ∀ i ∈ benchUsers config, ∃ time, .stopped i.1 i.2 time ∈ events

/-- The iterations of a shape in the statistics of a run. -/
def iterationsIn (statistics : List RunStatistics) (shape : Flow.Shape) : Nat :=
  match statistics.find? fun entry => entry.name = shape.name with
  | some entry => entry.iterations
  | none => 0

theorem iterationsIn_statistics (config : Config) (events : List Executor.Event) (index : Nat)
    (shape : Flow.Shape) (hshape : shapes[index]? = some shape) :
    iterationsIn (statistics config events) shape = events.countP (·.completes index) := by
  rcases index with _ | _ | index
  · rw [← Option.some.inj hshape]
    rfl
  · rw [← Option.some.inj hshape]
    rfl
  · exact absurd hshape (by simp only [shapes, List.getElem?_cons_succ, List.getElem?_nil,
      reduceCtorEq, not_false_eq_true])

/-- The users of a shape are those of its scenario. -/
theorem name_crewShape (config : Config) (i : Nat × Nat) (hi : i ∈ benchUsers config)
    (index : Nat) (shape : Flow.Shape) (hshape : shapes[index]? = some shape) :
    (crewShape i).name = shape.name ↔ i.1 = index := by
  have hcrew := shapes_of_benchUsers config i hi
  -- The names of the two shapes tell their positions.
  have hnodup : (shapes.map Flow.Shape.name).Nodup := by decide
  constructor
  · intro hname
    have hlt : i.1 < (shapes.map Flow.Shape.name).length := by
      rw [List.length_map]
      exact (List.getElem?_eq_some_iff.mp hcrew).1
    refine (List.getElem?_inj hlt hnodup).mp ?_
    rw [List.getElem?_map, List.getElem?_map, hcrew, hshape, Option.map_some, Option.map_some,
      hname]
  · rintro rfl
    rw [hshape] at hcrew
    rw [Option.some.inj hcrew]

/-- A bench run whose users have all stopped is a run of its users to the end. -/
theorem ended_of_run (client : Client σ) (config : Config) (now : Instant) (server : σ)
    (events : List Executor.Event) (world : World (σ × Nat))
    (hrun : run client.counted config now (server, 0) = .ok (events, world))
    (hstopped : AllStopped config events) :
    ∃ trace users, Ended client.observe config crewShape (preparation client) trace users
        (benchUsers config) ∧
      world.registry = users.registry ∧ world.server.2 = requests trace ∧
      ∀ shape ∈ shapes,
        iterationsIn (statistics config events) shape = iterations crewShape trace shape := by
  -- The turns of the run are steps of its users, from their rest to its end.
  rcases follows_turns (scenariosOf config) now (shapes_of_benchUsers config) (bound config) _ _ _
    (follows_start client config server) with ⟨trace, users, hfollows⟩
  have hexecuted : (events, world) = (List.reverse _, _) :=
    (run_eq_ok client.counted config now (server, 0) _ hrun).1
  rcases Prod.mk.inj hexecuted with ⟨hevents, hworld⟩
  refine ⟨trace, users, ⟨hfollows.run, hfollows.known, fun i hi => ?_⟩, ?_, ?_, ?_⟩
  · rcases hstopped i hi with ⟨time, htime⟩
    rw [hevents] at htime
    exact hfollows.stopped i.1 i.2 time (List.mem_reverse.mp htime)
  · rw [hworld]
    exact hfollows.registry
  · rw [hworld]
    exact hfollows.counted
  · intro shape hshape
    rcases List.mem_iff_getElem?.mp hshape with ⟨index, hindex⟩
    rw [iterationsIn_statistics config events index shape hindex, hevents, List.countP_reverse]
    -- The iterations of a scenario are those of the users that run its shape.
    refine (hfollows.completed index).trans (List.countP_congr fun entry hentry => ?_)
    have hname := name_crewShape config entry.1 (hfollows.known entry hentry) index shape hindex
    simp only [completes, Bool.and_eq_true, decide_eq_true_eq, hname]

/-- Accounts only look at the iterations of the two shapes. -/
theorem accounts_congr (maxPages requests : Nat) (iterations others : Flow.Shape → Nat)
    (registry : Registry) (heq : ∀ shape ∈ shapes, others shape = iterations shape)
    (h : Accounts maxPages requests iterations registry) :
    Accounts maxPages requests others registry := by
  refine ⟨fun shape hshape => ?_, fun shape hshape => ?_, fun shape hshape => ?_,
    fun shape hshape => ?_, h.pages, h.outcomes⟩
  · rw [heq shape hshape]
    exact h.pageSamples shape hshape
  · rw [heq shape hshape]
    exact h.totalSamples shape hshape
  · rw [heq shape hshape]
    exact h.iterations_le shape hshape
  · rw [heq shape hshape]
    exact h.pages_le shape hshape

theorem crewShape_mem (config : Config) (i : Nat × Nat) (hi : i ∈ benchUsers config) :
    crewShape i ∈ shapes :=
  List.mem_of_getElem? (shapes_of_benchUsers config i hi)

/-- When a run on a fresh registry has ended and no user has crashed, its numbers fit
together. This holds for any numbers of users of the two shapes, for every order of
their steps and for every reply, and so for every bench run, whose statistics tell the
iterations. `Accounts` says which numbers these are, and `HttpAccounts` what comes with
them when the client is the HTTP client. No total may reach the end of a word. -/
theorem run_accounts (client : Client σ) (hquiet : client.Quiet) (config : Config) :
    (∀ (days months : Nat) (trace : List ((Fin days ⊕ Fin months) × User.Act))
        (world : Interleaving.World (Fin days ⊕ Fin months) User),
      let kinds : Fin days ⊕ Fin months → Flow.Shape :=
        Sum.elim (fun _ => Flow.lastDay) (fun _ => Flow.lastMonth)
      Runs client.observe config kinds (preparation client) trace world →
      (∀ i, world.states i = .stopped) → requests trace < 2 ^ 64 →
        Accounts config.maxPages.val (requests trace) (iterations kinds trace) world.registry ∧
        (client.IsHttp → HttpAccounts (requests trace) world.registry)) ∧
    ∀ (now : Instant) (server : σ) (events : List Executor.Event) (world : World σ),
      run client config now server = .ok (events, world) → AllStopped config events →
      ∃ requests, run client.counted config now (server, 0)
          = .ok (events, ⟨(world.server, requests), world.registry⟩) ∧
        (requests < 2 ^ 64 →
          Accounts config.maxPages.val requests (iterationsIn (statistics config events))
            world.registry ∧
          (client.IsHttp → HttpAccounts requests world.registry)) := by
  refine ⟨fun days months trace world => ?_, fun now server events world hrun hstopped => ?_⟩
  · intro kinds hruns hstopped hlt
    have hended : Ended client.observe config kinds (preparation client) trace world
        Finset.univ := ⟨hruns, fun _ _ => Finset.mem_univ _, fun i _ => hstopped i⟩
    refine accounts_of_runs client hquiet config kinds trace world _ hended (fun i _ => ?_) hlt
    rcases i with day | month
    · exact List.mem_cons_self
    · exact List.mem_cons_of_mem _ List.mem_cons_self
  · -- The count of requests is not part of the run, so the run is made again with
    -- a server that counts.
    rcases run_counted client config now server events world hrun with ⟨requests, hcounted⟩
    refine ⟨requests, hcounted, fun hlt => ?_⟩
    rcases ended_of_run client config now server events _ hcounted hstopped
      with ⟨trace, users, hended, hregistry, hrequests, hiterations⟩
    simp only at hregistry hrequests
    rw [hrequests] at hlt ⊢
    rw [hregistry]
    have haccounts := accounts_of_runs client hquiet config crewShape trace users _ hended
      (crewShape_mem config) hlt
    exact ⟨accounts_congr _ _ _ _ _ hiterations haccounts.1, haccounts.2⟩

/-- A client whose server sends an empty page after a millisecond. -/
def plainClient : Client Unit where
  serve := fun _ _ => (⟨some 200, some ByteArray.empty, .ofMillis 1⟩, ())
  observe := Http.report
  register := Http.register

/-- A run of a millisecond with one user for each shape. -/
def briefConfig : Config :=
  { Sweep.localConfig with vus := ⟨1, by decide, by decide⟩, duration := .ofMillis 1 }

/-- What happens in that run. -/
theorem run_brief :
    run plainClient briefConfig ⟨0, by decide⟩ ()
      = .ok (execution plainClient briefConfig ⟨0, by decide⟩ ()) ∧
    (execution plainClient briefConfig ⟨0, by decide⟩ ()).1
      = [.completed 0 1 0 0 1, .stopped 0 1 1, .completed 1 1 0 0 1, .stopped 1 1 1] ∧
    run plainClient.counted briefConfig ⟨0, by decide⟩ ((), 0)
      = .ok (execution plainClient.counted briefConfig ⟨0, by decide⟩ ((), 0)) ∧
    (execution plainClient.counted briefConfig ⟨0, by decide⟩ ((), 0)).2.server.2 = 2 :=
  ⟨rfl, by decide +kernel, rfl, by decide +kernel⟩

theorem allStopped_brief :
    AllStopped briefConfig (execution plainClient briefConfig ⟨0, by decide⟩ ()).1 := by
  rw [run_brief.2.1]
  rintro ⟨crew, user⟩ hi
  rcases Finset.mem_product.mp hi with ⟨hcrew, huser⟩
  rcases Finset.mem_Icc.mp huser with ⟨hfirst, hlast⟩
  have hone : user = 1 := Nat.le_antisymm hlast hfirst
  have hcrew : crew < 2 := Finset.mem_range.mp hcrew
  subst hone
  refine ⟨1, ?_⟩
  rcases crew with _ | _ | crew
  · exact List.mem_cons_of_mem _ List.mem_cons_self
  · exact List.mem_cons_of_mem _ (List.mem_cons_of_mem _
      (List.mem_cons_of_mem _ List.mem_cons_self))
  · omega

/-- One user for each shape. -/
def briefKinds : Fin 1 ⊕ Fin 1 → Flow.Shape :=
  Sum.elim (fun _ => Flow.lastDay) (fun _ => Flow.lastMonth)

/-- Two users whose flows overlap: both wait for their replies at the same time. -/
theorem runs_overlapping :
    ∃ trace world, Runs plainClient.observe briefConfig briefKinds (preparation plainClient)
      trace world ∧ (∀ i, world.states i = .stopped) ∧ requests trace = 2 := by
  let reply : Exchange := (plainClient.serve () briefConfig.eventsUrl).1
  have hover : (Sweep.Progress.start.after reply).isOver briefConfig.maxPages.val = true := by
    decide +kernel
  have hday : ∃ window, Window.endingAt? ⟨0, by decide⟩ 0 Flow.lastDay.days = some window :=
    Option.isSome_iff_exists.mp (by decide +kernel)
  have hmonth : ∃ window, Window.endingAt? ⟨0, by decide⟩ 0 Flow.lastMonth.days = some window :=
    Option.isSome_iff_exists.mp (by decide +kernel)
  rcases hday with ⟨day, hday⟩
  rcases hmonth with ⟨month, hmonth⟩
  have h0 : Runs plainClient.observe briefConfig briefKinds (preparation plainClient) []
    (usersAtRest _ _) := Run.nil
  have h1 := run_append_steps h0 (.inl 0) _ _ (steps_begin _ _ _ _ _ hday)
  have h2 := run_append_steps h1 (.inr 0) _ _ (steps_begin _ _ _ _ _ hmonth)
  have h3 := run_append_steps h2 (.inl 0) _ _ (steps_lastReply _ _ _ day .start reply hover)
  have h4 := run_append_steps h3 (.inr 0) _ _ (steps_lastReply _ _ _ month .start reply hover)
  have h5 := run_append_steps h4 (.inl 0) _ _ (steps_single User.Step.stop)
  have h6 := run_append_steps h5 (.inr 0) _ _ (steps_single User.Step.stop)
  refine ⟨_, _, h6, ?_, rfl⟩
  rintro (i | i)
  · rw [Subsingleton.elim i 0]
    rfl
  · rw [Subsingleton.elim i 0]
    rfl

/-- One flow of each shape, with one page each: in a run in which the flows overlap, and
in a bench run. -/
theorem run_accounts_brief :
    (∃ trace world, Runs plainClient.observe briefConfig briefKinds (preparation plainClient)
        trace world ∧ requests trace = 2 ∧
      Accounts briefConfig.maxPages.val 2 (iterations briefKinds trace) world.registry ∧
      HttpAccounts 2 world.registry) ∧
    ∃ events world, run plainClient briefConfig ⟨0, by decide⟩ () = .ok (events, world) ∧
      AllStopped briefConfig events ∧
      run plainClient.counted briefConfig ⟨0, by decide⟩ ((), 0)
        = .ok (events, ⟨(world.server, 2), world.registry⟩) ∧
      Accounts briefConfig.maxPages.val 2 (iterationsIn (statistics briefConfig events))
        world.registry ∧
      HttpAccounts 2 world.registry := by
  have hhttp : plainClient.IsHttp := ⟨rfl, rfl⟩
  have haccounts := run_accounts plainClient hhttp.quiet briefConfig
  constructor
  · rcases runs_overlapping with ⟨trace, world, hruns, hstopped, htwo⟩
    have hboth := haccounts.1 1 1 trace world hruns hstopped (by rw [htwo]; decide)
    rw [htwo] at hboth
    exact ⟨trace, world, hruns, htwo, hboth.1, hboth.2 hhttp⟩
  · rcases run_brief with ⟨hrun, -, hcounted, htwo⟩
    rcases haccounts.2 _ _ _ _ hrun allStopped_brief with ⟨requests, hrequests, hboth⟩
    have hsame := Except.ok.inj (hcounted.symm.trans hrequests)
    have hcount : requests = 2 := by
      rw [hsame] at htwo
      exact htwo
    subst hcount
    have htotal := hboth (by decide)
    exact ⟨_, _, hrun, allStopped_brief, hrequests, htotal.1, htotal.2 hhttp⟩

end Bench

end PageSweep
