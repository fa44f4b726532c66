import PageSweep.Proofs.Scenario.Constant

/-!
# The Deadline of a Crew

The deadline of a crew decides when iterations begin, and nothing else. Before it every
user goes on, at the deadline or later none of them begins another iteration, and an
iteration that has begun is left alone until it ends. So what a crew has done when its run
is over can be told from its plans, and the number of iterations that the run reports is
the number of those that were complete.

This holds whatever the iterations are, in whatever order the users take their steps, and
however late they are. What the executor does with a scenario is one of these runs.

## Main definitions

* `Kept`: What holds of a run of a crew.
* `Told`: What holds of the events of a scenario.

## Theorems

* `kept_run`: What holds of every run.
* `told_of_kept`: Hence of the events.
* `own_unique`: On an exact clock users do not depend on each other.
* `completions_constant`: Iterations of the same length.
* `run_deadline`: All of this, for crews and for the executor.
-/

namespace PageSweep

namespace Crew

open Interleaving

/-- What holds of a run of a crew at any moment. -/
structure Kept (exact : Prop) (vus start duration : Nat) (plans : Nat → Nat → Iteration)
    (trace : List (Nat × Act)) (world : World) : Prop where
  /-- No iteration begins at the deadline or later. -/
  begins : ∀ i k time, (i, ⟨.begin k, time⟩) ∈ trace → time < start + duration
  /-- What is complete has begun, has taken its time and does not crash. -/
  finishes : ∀ i k begun ended, (i, ⟨.finish k begun, ended⟩) ∈ trace →
    (i, ⟨.begin k, begun⟩) ∈ trace ∧ (plans i k).crashes = false ∧
      begun + (plans i k).length ≤ ended
  /-- What is counted is complete. -/
  counts : ∀ i k time, (i, ⟨.count k, time⟩) ∈ trace →
    ∃ begun ended, (i, ⟨.finish k begun, ended⟩) ∈ trace ∧ ended ≤ time
  /-- No user stops before the deadline. -/
  stops : ∀ i time, (i, ⟨.stop, time⟩) ∈ trace → start + duration ≤ time
  /-- A user has complete rounds behind it, and after them the part of a round that is under
  way or the steps with which it was gone. -/
  records : ∀ i, ∃ rounds tail, Record exact start (start + duration) (plans i) rounds tail
    (world.users i) (own i trace)
  /-- When a user is gone, each iteration that it began and that does not crash has run to
  its end and is counted once. -/
  iterations : ∀ i, (world.users i).IsGone → ∀ k begun, (i, ⟨.begin k, begun⟩) ∈ trace →
    (plans i k).crashes = false →
      ∃ ended counted, begun + (plans i k).length ≤ ended ∧ ended ≤ counted ∧
        (own i trace).filter (Act.isOf k)
          = [⟨.begin k, begun⟩, ⟨.finish k begun, ended⟩, ⟨.count k, counted⟩]
  /-- A user is gone only because it found the deadline reached or because its iteration
  crashed. -/
  reasons : ∀ i, (world.users i).IsGone →
    (∃ time, (i, ⟨.stop, time⟩) ∈ trace ∧ start + duration ≤ time) ∨
    ∃ k begun time, (i, ⟨.begin k, begun⟩) ∈ trace ∧ (i, ⟨.crash, time⟩) ∈ trace ∧
      (plans i k).crashes = true ∧ begun + (plans i k).length ≤ time
  /-- Nothing but the end of an iteration is counted. -/
  counter : world.counter = .ofNat (trace.countP fun entry => entry.2.counts)
  /-- A run is over only when all users are gone. It reports the complete iterations, and it
  lasts as long as the last of them. -/
  resolved : ∀ iterations elapsed, world.watch = .resolved iterations elapsed →
    AllGone vus world.users ∧ iterations = .ofNat (completions trace) ∧
      ∀ entry ∈ trace, entry.2.time ≤ start + elapsed

/-- What the events of a scenario tell. -/
structure Told (events : List Executor.Event) (crew : Nat) (scenario : Scenario) : Prop where
  /-- A complete iteration began before the deadline. -/
  begins : ∀ user iteration begun ended,
    .completed crew user iteration begun ended ∈ events → nanos begun < scenario.duration.nanos
  /-- No user stops before the deadline. -/
  stops : ∀ user time, .stopped crew user time ∈ events → scenario.duration.nanos ≤ nanos time
  /-- When all users have ended, no complete iteration has taken longer than the scenario. -/
  ends : AllEnded events crew scenario.vus.val → ∀ user iteration begun ended,
    .completed crew user iteration begun ended ∈ events →
      nanos ended ≤ (Executor.statistics events crew scenario).elapsed.nanos

section Runs

variable {exact : Prop} {vus start duration : Nat} {plans others : Nat → Nat → Iteration}
variable {trace trace' : List (Nat × Act)} {world world' : World}

theorem kept_run (hrun : Run exact vus start duration plans trace world) :
    Kept exact vus start duration plans trace world := by
  have hrecords : ∀ i, ∃ rounds tail, Record exact start (start + duration) (plans i) rounds tail
      (world.users i) (own i trace) := fun i => record_steps (steps_own_run hrun i)
  refine ⟨fun i k time hbegin => ?_, fun i k begun ended hfinish => ?_,
    fun i k time hcount => ?_, fun i time hstop => ?_, hrecords,
    fun i hgone k begun hbegin hplan => ?_, fun i hgone => ?_, counter_run hrun,
    resolved_run hrun⟩
  · rcases hrecords i with ⟨rounds, tail, hrecord⟩
    exact begin_of_record hrecord k time (mem_own.mpr hbegin)
  · rcases hrecords i with ⟨rounds, tail, hrecord⟩
    rcases finish_of_record hrecord k begun ended (mem_own.mpr hfinish)
      with ⟨hbegin, hplan, hended⟩
    exact ⟨mem_own.mp hbegin, hplan, hended.le⟩
  · rcases hrecords i with ⟨rounds, tail, hrecord⟩
    rcases count_of_record hrecord k time (mem_own.mpr hcount) with ⟨begun, ended, hfinish, hended⟩
    exact ⟨begun, ended, mem_own.mp hfinish, hended.le⟩
  · rcases hrecords i with ⟨rounds, tail, hrecord⟩
    exact ((ending_of_record hrecord (mem_own.mpr hstop)).1 rfl).1
  · rcases hrecords i with ⟨rounds, tail, hrecord⟩
    rcases iteration_of_record hrecord hgone k begun (mem_own.mpr hbegin) hplan
      with ⟨ended, counted, hended, hcounted, hfilter⟩
    exact ⟨ended, counted, hended.le, hcounted.le, hfilter⟩
  · rcases hrecords i with ⟨rounds, tail, hrecord⟩
    rcases reason_of_record hrecord hgone
      with ⟨time, hstop, hle⟩ | ⟨begun, time, hbegin, hcrash, hplan, hle⟩
    · exact Or.inl ⟨time, mem_own.mp hstop, hle⟩
    · exact Or.inr ⟨rounds.length, begun, time, mem_own.mp hbegin, mem_own.mp hcrash, hplan, hle⟩

/-- On an exact clock a user does the same in every run of a crew in which it is gone. -/
theorem own_unique (hexact : exact) (hrun : Run exact vus start duration plans trace world)
    (hother : Run exact vus start duration others trace' world') (i : Nat)
    (hgone : (world.users i).IsGone) (hgone' : (world'.users i).IsGone)
    (hplan : others i = plans i) : own i trace' = own i trace := by
  have hsteps := steps_own_run hother i
  rw [hplan] at hsteps
  exact acts_unique hexact hsteps hgone' (steps_own_run hrun i) hgone

/-- On an exact clock iterations of the same length begin until the deadline is reached. -/
theorem completions_constant (hexact : exact)
    (hrun : Run exact vus start duration plans trace world) (hgone : AllGone vus world.users)
    (length : Nat) (hpos : 0 < length)
    (hplans : ∀ i ∈ Finset.Icc 1 vus, plans i = fun _ => ⟨length, false⟩) :
    completions trace = vus * (duration ⌈/⌉ length) := by
  have hown : ∀ i ∈ Finset.Icc 1 vus,
      (own i trace).countP Act.finishes = duration ⌈/⌉ length := by
    intro i hi
    rcases record_steps (steps_own_run hrun i) with ⟨rounds, tail, hrecord⟩
    have hcompletes := completes_of_record hexact hrecord (hgone i hi)
    rw [hplans i hi] at hcompletes
    rw [(counts_of_record hrecord (hgone i hi)).1]
    exact completes_constant start duration length rounds.length hpos hcompletes
  unfold completions
  rw [countP_own (Finset.Icc 1 vus) (fun _ => Act.finishes) trace (mem_of_run hrun),
    Finset.sum_congr rfl hown, Finset.sum_const, Nat.card_Icc, smul_eq_mul, Nat.add_sub_cancel]

/-- What holds of a run holds of the events that tell it. -/
theorem told_of_kept {events : List Executor.Event} {crew : Nat} {scenario : Scenario}
    (hkept : Kept exact vus 0 scenario.duration.nanos plans trace world)
    (htold : events.filterMap (told? crew) = trace.filter fun entry => entry.2.isTold)
    (hresolved : AllEnded events crew scenario.vus.val → ∃ iterations, world.watch
      = .resolved iterations (Executor.statistics events crew scenario).elapsed.nanos) :
    Told events crew scenario := by
  have hfinish : ∀ user iteration begun ended,
      .completed crew user iteration begun ended ∈ events →
        (user, ⟨.finish iteration (nanos begun), nanos ended⟩) ∈ trace :=
    fun user iteration begun ended hevent => mem_of_told htold _ hevent _ (if_pos rfl)
  refine ⟨fun user iteration begun ended hevent => ?_, fun user time hevent => ?_,
    fun hended user iteration begun ended hevent => ?_⟩
  · have hbegin := (hkept.finishes _ _ _ _ (hfinish user iteration begun ended hevent)).1
    have hlt := hkept.begins _ _ _ hbegin
    omega
  · have hle := hkept.stops user _ (mem_of_told htold _ hevent _ (if_pos rfl))
    omega
  · rcases hresolved hended with ⟨iterations, hwatch⟩
    have hle := (hkept.resolved _ _ hwatch).2.2 _ (hfinish user iteration begun ended hevent)
    simp only at hle
    omega

end Runs

/-- The deadline in every run of a crew, and in every run of the executor.

Of every run `Kept` holds, and unless the clock is exact it can go on until it is over.
Whatever another user does in the place of one of the crew, be it that its iterations crash,
the others can do just what they did. On an exact clock they have no choice, and iterations
of the same length are as many as there are whole or partial lengths in the duration. What
the executor does with a scenario, next to whatever others, is such a run on an exact clock,
and a plan of iterations of the same length is carried out to the end. -/
theorem run_deadline :
    (∀ (exact : Prop) (vus start duration : Nat) (plans : Nat → Nat → Iteration)
        (trace : List (Nat × Act)) (world : World),
      Run exact vus start duration plans trace world →
      Kept exact vus start duration plans trace world ∧
      (¬ exact → ∃ more world' iterations elapsed,
        Run exact vus start duration plans (trace ++ more) world' ∧
        world'.watch = .resolved iterations elapsed) ∧
      (∀ (v : Nat) (plan : Nat → Iteration) (acts : List Act) (u : User),
        v ∈ Finset.Icc 1 vus →
        Steps (Step exact (start + duration) plan) (User.fresh start) acts u →
        ∃ trace' world',
          Run exact vus start duration (Function.update plans v plan) trace' world' ∧
          own v trace' = acts ∧ world'.users v = u ∧
          ∀ i ∈ Finset.Icc 1 vus, i ≠ v →
            own i trace' = own i trace ∧ world'.users i = world.users i) ∧
      (∀ iterations elapsed, exact → world.watch = .resolved iterations elapsed →
        (∀ others trace' world' iterations' elapsed',
          Run exact vus start duration others trace' world' →
          world'.watch = .resolved iterations' elapsed' →
          ∀ i ∈ Finset.Icc 1 vus, others i = plans i → own i trace' = own i trace) ∧
        ∀ length, 0 < length → (∀ i ∈ Finset.Icc 1 vus, plans i = fun _ => ⟨length, false⟩) →
          iterations = .ofNat (vus * (duration ⌈/⌉ length)))) ∧
    (∀ (σ α : Type) (w : Workload σ α) (scenarios : List Scenario) (bound : Nat) (before : σ)
        (crew : Nat) (scenario : Scenario), scenarios[crew]? = some scenario →
      let events := (Executor.run w scenarios bound before).1
      let statistics := Executor.statistics events crew scenario
      Told events crew scenario ∧
      ∃ plans trace world, Run True statistics.vus 0 scenario.duration.nanos plans trace world ∧
        (events.filterMap (told? crew) = trace.filter fun entry => entry.2.isTold) ∧
        statistics.iterations = completions trace ∧
        (AllEnded events crew statistics.vus →
          world.watch = .resolved (.ofNat statistics.iterations) statistics.elapsed.nanos)) ∧
    ∀ (p : Plan) (scenario : Scenario) (millis : Nat), 0 < millis → millis ≤ Sleep.longest →
      (∀ user iteration, p.entry user iteration = some millis) →
        (Executor.statistics (p.run scenario) 0 scenario).iterations
          = scenario.vus.val * (scenario.duration.nanos ⌈/⌉ nanos millis) := by
  refine ⟨fun exact vus start duration plans trace world hrun =>
    ⟨kept_run hrun, fun hexact => exists_resolved hexact hrun, ?_, ?_⟩, ?_, ?_⟩
  · intro v plan acts u hv hsteps
    rcases run_replaced hrun v plan acts u hsteps with ⟨trace', world', hrun', -, hsame⟩
    have hself := hsame v hv
    rw [Function.update_self, Function.update_self] at hself
    refine ⟨trace', world', hrun', hself.1, hself.2, fun i hi hne => ?_⟩
    have hother := hsame i hi
    rw [Function.update_of_ne hne, Function.update_of_ne hne] at hother
    exact hother
  · intro iterations elapsed hexact hresolved
    rcases resolved_run hrun iterations elapsed hresolved with ⟨hgone, hiterations, -⟩
    refine ⟨fun others trace' world' iterations' elapsed' hother hresolved' i hi hplan => ?_,
      fun length hpos hplans => ?_⟩
    · have hgone' := (resolved_run hother iterations' elapsed' hresolved').1
      exact own_unique hexact hrun hother i (hgone i hi) (hgone' i hi) hplan
    · rw [hiterations, completions_constant hexact hrun hgone length hpos hplans]
  · intro σ α w scenarios bound before crew scenario hscenario events statistics
    rcases exists_run_of_events w scenarios bound before crew scenario hscenario
      with ⟨plans, trace, world, hrun, htold, hiterations, hresolved⟩
    exact ⟨told_of_kept (kept_run hrun) htold fun hended => ⟨_, hresolved hended⟩, plans, trace,
      world, hrun, htold, hiterations, hresolved⟩
  · intro p scenario millis hpos hsleep hplan
    exact Plan.iterations_run p scenario millis hpos hsleep hplan

/-- A crew of two with ten nanoseconds. Its iterations take seven, and those of the first user
crash. -/
def flakyPlans (i _ : Nat) : Iteration :=
  ⟨7, decide (i = 1)⟩

theorem onTime_late {due time : Nat} (hle : due ≤ time) : OnTime False due time :=
  ⟨hle, False.elim⟩

/-- A run of this crew. The second user is late now and then, and its second iteration ends
after the deadline. -/
theorem run_flaky :
    ∃ trace world, Run False 2 0 10 flakyPlans trace world ∧ world.watch = .resolved 2 20 ∧
      completions trace = 2 := by
  have h0 : Run False 2 0 10 flakyPlans _ _ := Run.start
  have h1 := Run.act _ _ 1 _ _ h0 (by decide) (by decide)
    (.begin 0 0 0 (onTime_late (by decide)) (by decide))
  have h2 := Run.act _ _ 2 _ _ h1 (by decide) (by decide)
    (.begin 0 0 1 (onTime_late (by decide)) (by decide))
  have h3 := Run.act _ _ 1 _ _ h2 (by decide) (by decide)
    (.crash 0 0 7 (onTime_late (by decide)) rfl)
  have h4 := Run.act _ _ 2 _ _ h3 (by decide) (by decide)
    (.finish 1 0 9 (onTime_late (by decide)) rfl)
  have h5 := Run.act _ _ 2 _ _ h4 (by decide) (by decide)
    (.count 9 0 9 (onTime_late (by decide)))
  have h6 := Run.act _ _ 2 _ _ h5 (by decide) (by decide)
    (.begin 9 1 9 (onTime_late (by decide)) (by decide))
  have h7 := Run.act _ _ 2 _ _ h6 (by decide) (by decide)
    (.finish 9 1 17 (onTime_late (by decide)) rfl)
  have h8 := Run.act _ _ 2 _ _ h7 (by decide) (by decide)
    (.count 17 1 18 (onTime_late (by decide)))
  have h9 := Run.act _ _ 2 _ _ h8 (by decide) (by decide)
    (.stop 18 2 18 (onTime_late (by decide)) (by decide))
  refine ⟨_, _, resolved_of_allGone h9 (fun i hi => ?_) 1 rfl 20 (by decide), rfl, rfl⟩
  have hmember := Finset.mem_Icc.mp hi
  have hcases : i = 1 ∨ i = 2 := by omega
  rcases hcases with rfl | rfl
  · exact Or.inr rfl
  · exact Or.inl rfl

/-- A user on an exact clock that looks at it just when the deadline is reached. -/
theorem run_punctual :
    ∃ trace world, Run True 1 0 7 (fun _ _ => ⟨7, false⟩) trace world ∧
      world.watch = .resolved 1 7 := by
  have honTime : ∀ time, OnTime True time time := fun time => ⟨Nat.le_refl time, fun _ => rfl⟩
  have h0 : Run True 1 0 7 (fun _ _ => ⟨7, false⟩) _ _ := Run.start
  have h1 := Run.act _ _ 1 _ _ h0 (by decide) (by decide) (.begin 0 0 0 (honTime 0) (by decide))
  have h2 := Run.act _ _ 1 _ _ h1 (by decide) (by decide) (.finish 0 0 7 (honTime 7) rfl)
  have h3 := Run.act _ _ 1 _ _ h2 (by decide) (by decide) (.count 7 0 7 (honTime 7))
  have h4 := Run.act _ _ 1 _ _ h3 (by decide) (by decide) (.stop 7 1 7 (honTime 7) (by decide))
  refine ⟨_, _, resolved_of_allGone h4 (fun i hi => ?_) 1 rfl 7 (by decide), rfl⟩
  have hone : i = 1 := by
    have hmember := Finset.mem_Icc.mp hi
    omega
  rw [hone]
  exact Or.inl rfl

/-- Every other user crashes at once, and the rest of them sleep for ten milliseconds again
and again. -/
def flakyPlan : Plan :=
  ⟨[[none], [some 10]]⟩

/-- The default scenario, cut to twenty-five milliseconds. -/
def flakyScenario : Scenario :=
  { Scenario.ofName "flaky" with duration := .ofMillis 25 }

theorem allEnded_flaky : AllEnded (flakyPlan.run flakyScenario) 0 4 := by
  have hevents : flakyPlan.run flakyScenario = [.crashed 0 1 0, .crashed 0 3 0,
      .completed 0 2 0 0 10, .completed 0 4 0 0 10, .completed 0 2 1 10 20, .completed 0 4 1 10 20,
      .completed 0 2 2 20 30, .stopped 0 2 30, .completed 0 4 2 20 30, .stopped 0 4 30] := by
    decide +kernel
  rw [hevents]
  intro i hi
  have hmember := Finset.mem_Icc.mp hi
  have hcases : (i = 1 ∨ i = 3) ∨ i = 2 ∨ i = 4 := by omega
  rcases hcases with (rfl | rfl) | rfl | rfl
  · exact ⟨0, Or.inr (by decide)⟩
  · exact ⟨0, Or.inr (by decide)⟩
  · exact ⟨30, Or.inl (by decide)⟩
  · exact ⟨30, Or.inl (by decide)⟩

/-- A crew whose first user crashes: its own run, a run in which the first user comes too late
instead, and a run of the executor. A crew whose only user looks at the clock at the deadline,
and a plan of one length. -/
theorem run_deadline_flaky :
    (∃ trace world, Run False 2 0 10 flakyPlans trace world ∧ world.watch = .resolved 2 20 ∧
      completions trace = 2 ∧ Kept False 2 0 10 flakyPlans trace world ∧
      ∃ trace' world',
        Run False 2 0 10 (Function.update flakyPlans 1 (flakyPlans 2)) trace' world' ∧
        own 1 trace' = [⟨.stop, 11⟩] ∧ own 2 trace' = own 2 trace) ∧
    (∃ trace world, Run True 1 0 7 (fun _ _ => ⟨7, false⟩) trace world ∧
      world.watch = .resolved (.ofNat (1 * (7 ⌈/⌉ 7))) 7) ∧
    (∃ plans trace world, Run True 4 0 25000000 plans trace world ∧ completions trace = 6 ∧
      world.watch = .resolved 6 30000000) ∧
    (Executor.statistics (Plan.run ⟨[[some 10]]⟩ flakyScenario) 0 flakyScenario).iterations
      = 4 * (25000000 ⌈/⌉ nanos 10) := by
  rcases run_deadline with ⟨hcrews, hexecutor, hplans⟩
  refine ⟨?_, ?_, ?_, ?_⟩
  · rcases run_flaky with ⟨trace, world, hrun, hresolved, hcompletions⟩
    rcases hcrews False 2 0 10 flakyPlans trace world hrun with ⟨hkept, -, hreplaced, -⟩
    rcases hreplaced 1 (flakyPlans 2) [⟨.stop, 11⟩] ⟨.stopped, 11, 0⟩ (by decide)
      (steps_single (.stop 0 0 11 (onTime_late (by decide)) (by decide)))
      with ⟨trace', world', hrun', hown, -, hothers⟩
    exact ⟨trace, world, hrun, hresolved, hcompletions, hkept, trace', world', hrun', hown,
      (hothers 2 (by decide) (by decide)).1⟩
  · rcases run_punctual with ⟨trace, world, hrun, hresolved⟩
    rcases hcrews True 1 0 7 _ trace world hrun with ⟨-, -, -, hexact⟩
    have hsame := (hexact 1 7 trivial hresolved).2 7 (by decide) fun _ _ => rfl
    rw [hsame] at hresolved
    exact ⟨trace, world, hrun, hresolved⟩
  · rcases hexecutor Unit Unit flakyPlan.workload [flakyScenario] (flakyPlan.bound flakyScenario) ()
      0 flakyScenario rfl with ⟨-, plans, trace, world, hrun, -, hcompletions, hresolved⟩
    have hsix : (Executor.statistics (flakyPlan.run flakyScenario) 0 flakyScenario).iterations
        = 6 := by decide +kernel
    have hnanos : (Executor.statistics (flakyPlan.run flakyScenario) 0
        flakyScenario).elapsed.nanos = 30000000 := by decide +kernel
    have hend := hresolved allEnded_flaky
    have hcount := hcompletions.symm.trans hsix
    refine ⟨plans, trace, world, hrun, hcount, ?_⟩
    rw [hend]
    exact congrArg₂ Watch.resolved (congrArg UInt64.ofNat hsix) hnanos
  · exact hplans ⟨[[some 10]]⟩ flakyScenario 10 (by decide) (by decide) fun user iteration => by
      simp only [Plan.entry, List.length_singleton, Nat.mod_one, List.getD_cons_zero,
        List.getElem?_cons_zero, Option.join_some]

end Crew

end PageSweep
