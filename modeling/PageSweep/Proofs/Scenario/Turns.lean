import PageSweep.Proofs.Scenario.Crew
import PageSweep.Proofs.Scenario.Schedule

/-!
# Scenarios Are Runs of Crews

The executor counts milliseconds, and in each turn of a user everything happens at one
time. So the users of a scenario are a crew on an exact clock that starts at zero,
whatever the users of the other scenarios do in between.

How long an iteration takes is only known when it ends. Until then it does not matter what
the plan of its user says about it, so the plan is written while the executor runs: when
an iteration ends, the time since its beginning goes in there.

The events tell all steps of the crew but the beginnings and the counts of iterations. Of
those no trace is left in the events, but every complete iteration has both.

## Main definitions

* `told?`, `Act.isTold`: The step that an event tells.
* `userOf`: The user of a task.
* `Follows`: A schedule, and a run of the crew of a scenario.

## Theorems

* `follows_shift`, `follows_shifts`: A crew follows the shifts of the schedule.
* `exists_run_of_events`: A scenario is a run of its crew.
-/

namespace PageSweep

namespace Crew

open Interleaving

variable {σ α : Type}

/-- The nanoseconds of some milliseconds. -/
def nanos (millis : Nat) : Nat :=
  millis * 1000000

/-- The user and the step that an event tells, if it belongs to a scenario. -/
def told? (crew : Nat) : Executor.Event → Option (Nat × Act)
  | .completed c user iteration start stop =>
    if c = crew then some (user, ⟨.finish iteration (nanos start), nanos stop⟩) else none
  | .stopped c user time => if c = crew then some (user, ⟨.stop, nanos time⟩) else none
  | .crashed c user time => if c = crew then some (user, ⟨.crash, nanos time⟩) else none

/-- Whether an event tells such a step. -/
def Act.isTold (act : Act) : Bool :=
  match act.deed with
  | .begin _ | .count _ => false
  | .finish _ _ | .stop | .crash => true

/-- The user of a task between two turns. -/
def userOf (task : Executor.Task Unit) : User :=
  match task.work with
  | none => ⟨.between, nanos task.wake, task.iteration⟩
  | some () => ⟨.busy, nanos task.since, task.iteration⟩

section Following

variable (crew vus duration : Nat)

/-- A schedule, and a run of the crew of one of the scenarios. -/
structure Follows (plans : Nat → Nat → Iteration) (s : Executor.Schedule)
    (trace : List (Nat × Act)) (world : World) : Prop where
  run : Run True vus 0 duration plans trace world
  watch : world.watch = .waiting 1
  told : s.events.reverse.filterMap (told? crew) = trace.filter fun entry => entry.2.isTold
  orderly : Executor.Orderly s.agenda
  clock : ∀ task ∈ s.agenda, world.clock ≤ nanos task.wake
  tasks : ∀ task ∈ s.agenda, task.crew = crew →
    task.user ∈ Finset.Icc 1 vus ∧ world.users task.user = userOf task
  /-- A user without a task is gone. -/
  others : ∀ i ∈ Finset.Icc 1 vus,
    (world.users i).IsGone ∨ (crew, i) ∈ s.agenda.map Executor.Task.key

variable {crew vus duration}
variable {plans : Nat → Nat → Iteration} {trace : List (Nat × Act)} {world : World}
variable {task : Executor.Task Unit} {agenda : List (Executor.Task Unit)}
variable {events : List Executor.Event}

theorem nanos_mono {first second : Nat} (hle : first ≤ second) : nanos first ≤ nanos second :=
  Nat.mul_le_mul_right _ hle

/-- What an event adds to the steps that are told. -/
theorem told_cons (event : Executor.Event) (events : List Executor.Event) :
    (event :: events).reverse.filterMap (told? crew)
      = events.reverse.filterMap (told? crew) ++ (told? crew event).toList := by
  rw [List.reverse_cons, List.filterMap_append]
  cases h : told? crew event with
  | none => rw [List.filterMap_cons_none h, List.filterMap_nil, Option.toList_none]
  | some entry => rw [List.filterMap_cons_some h, List.filterMap_nil, Option.toList_some]

/-- A shift of another scenario leaves the crew alone. -/
theorem follows_foreign
    (hs : Follows crew vus duration plans ⟨task :: agenda, events⟩ trace world)
    (hcrew : task.crew ≠ crew) {next : Option (Executor.Task Unit)}
    {agenda' : List (Executor.Task Unit)} {events' : List Executor.Event}
    (hreplaced : Executor.Replaced task agenda agenda' next)
    (htold : events'.reverse.filterMap (told? crew) = events.reverse.filterMap (told? crew)) :
    Follows crew vus duration plans ⟨agenda', events'⟩ trace world := by
  rcases Executor.orderly_replaced hs.orderly hreplaced with ⟨horderly, hwake⟩
  refine ⟨hs.run, hs.watch, htold.trans hs.told, horderly, fun other hother => ?_,
    fun other hother hsame => ?_, fun i hi => ?_⟩
  · exact Nat.le_trans (hs.clock task List.mem_cons_self) (nanos_mono (hwake other hother))
  · rcases List.mem_append.mp (hreplaced.perm.mem_iff.mp hother) with h | h
    · have hkey := hreplaced.key other (Option.mem_toList.mp h)
      have hforeign : other.crew = task.crew := (Prod.mk.inj hkey).1
      exact absurd (hforeign.symm.trans hsame) hcrew
    · exact hs.tasks other (List.mem_cons_of_mem _ h) hsame
  · rcases hs.others i hi with h | h
    · exact Or.inl h
    · refine Or.inr ((hreplaced.perm.map _).mem_iff.mpr ?_)
      rw [List.map_append]
      rcases List.mem_cons.mp h with heq | hmem
      · exact absurd (Prod.mk.inj heq).1.symm hcrew
      · exact List.mem_append_right _ hmem

/-- A shift of the crew's own scenario is a few steps of one user, all at one time. The
plans may be rewritten as far as they are not used yet. -/
theorem follows_own
    (hs : Follows crew vus duration plans ⟨task :: agenda, events⟩ trace world)
    (hcrew : task.crew = crew) {plans' : Nat → Nat → Iteration}
    (hplans : ∀ i, ∀ k < (world.users i).used, plans' i k = plans i k)
    {acts : List Act} {u : User}
    (hsteps : Steps (Step True (0 + duration) (plans' task.user)) (userOf task) acts u)
    (htimes : ∀ act ∈ acts, act.time = nanos task.wake) {next : Option (Executor.Task Unit)}
    {agenda' : List (Executor.Task Unit)} {events' : List Executor.Event}
    (hreplaced : Executor.Replaced task agenda agenda' next)
    (huser : ∀ task', next = some task' → u = userOf task') (hgone : next = none → u.IsGone)
    (htold : events'.reverse.filterMap (told? crew)
      = events.reverse.filterMap (told? crew)
        ++ (acts.map fun act => (task.user, act)).filter fun entry => entry.2.isTold) :
    ∃ plans' trace' world', Follows crew vus duration plans' ⟨agenda', events'⟩ trace' world' := by
  rcases Executor.orderly_replaced hs.orderly hreplaced with ⟨horderly, hwake⟩
  rcases hs.tasks task List.mem_cons_self hcrew with ⟨hmember, hstate⟩
  rw [← hstate] at hsteps
  rcases run_append_steps (run_congr plans' hs.run hplans) task.user hmember acts u hsteps
    (nanos task.wake) (hs.clock task List.mem_cons_self) htimes
    with ⟨world', hrun, husers, hwatch, hclock⟩
  have hself : world'.users task.user = u := by
    rw [husers, Function.update_self]
  have hothers : ∀ i, i ≠ task.user → world'.users i = world.users i := by
    intro i hne
    rw [husers, Function.update_of_ne hne]
  refine ⟨plans', _, world', hrun, hwatch.trans hs.watch, ?_, horderly, fun other hother => ?_,
    fun other hother hsame => ?_, fun i hi => ?_⟩
  · rw [List.filter_append, ← hs.told]
    exact htold
  · exact Nat.le_trans hclock (nanos_mono (hwake other hother))
  · rcases List.mem_append.mp (hreplaced.perm.mem_iff.mp hother) with h | h
    · have hmem := Option.mem_toList.mp h
      have hkey : other.user = task.user := (Prod.mk.inj (hreplaced.key other hmem)).2
      rw [hkey, hself]
      exact ⟨hmember, huser other hmem⟩
    · -- No user of the crew has two tasks.
      have hold := hs.tasks other (List.mem_cons_of_mem _ h) hsame
      have hnodup := hs.orderly.nodup
      rw [List.map_cons] at hnodup
      have hne : other.user ≠ task.user := by
        intro heq
        have hkey : other.key = task.key := Prod.ext (hsame.trans hcrew.symm) heq
        exact (List.nodup_cons.mp hnodup).1 (hkey ▸ List.mem_map_of_mem h)
      rw [hothers _ hne]
      exact hold
  · -- The user of the first task still has one, or it is gone now.
    by_cases h : i = task.user
    · rw [h, hself]
      cases hcase : next with
      | none => exact Or.inl (hgone hcase)
      | some task' =>
          have hkey := hreplaced.key task' hcase
          have hmem : task' ∈ agenda' := by
            rw [hreplaced.perm.mem_iff, hcase]
            exact List.mem_append_left _ (Option.mem_toList.mpr rfl)
          exact Or.inr (List.mem_map.mpr ⟨task', hmem, hkey.trans (Prod.ext hcrew rfl)⟩)
    · rw [hothers i h]
      rcases hs.others i hi with hleft | hright
      · exact Or.inl hleft
      · refine Or.inr ((hreplaced.perm.map _).mem_iff.mpr ?_)
        rw [List.map_append]
        rcases List.mem_cons.mp hright with heq | hmem
        · exact absurd (Prod.mk.inj heq).2 h
        · exact List.mem_append_right _ hmem

theorem userOf_of_none (task : Executor.Task Unit) (hwork : task.work = none) :
    userOf task = ⟨.between, nanos task.wake, task.iteration⟩ := by
  unfold userOf
  rw [hwork]

theorem userOf_of_some (task : Executor.Task Unit) (hwork : task.work = some ()) :
    userOf task = ⟨.busy, nanos task.since, task.iteration⟩ := by
  unfold userOf
  rw [hwork]

/-- When an iteration ends, what it did can be written into the plan. -/
theorem exists_plans (hs : Follows crew vus duration plans ⟨task :: agenda, events⟩ trace world)
    (hcrew : task.crew = crew) (hwork : task.work = some ()) (crashes : Bool) :
    ∃ plans' : Nat → Nat → Iteration,
      (∀ i, ∀ k < (world.users i).used, plans' i k = plans i k) ∧
      OnTime True (nanos task.since + (plans' task.user task.iteration).length)
        (nanos task.wake) ∧
      (plans' task.user task.iteration).crashes = crashes := by
  have hsince := nanos_mono (hs.orderly.since task List.mem_cons_self hwork)
  let iteration : Iteration := ⟨nanos task.wake - nanos task.since, crashes⟩
  refine ⟨Function.update plans task.user
    (Function.update (plans task.user) task.iteration iteration), fun i k hlt => ?_, ?_⟩
  · by_cases h : i = task.user
    · -- The iteration under way is the first one whose end the user has not seen.
      have hstate := (hs.tasks task List.mem_cons_self hcrew).2
      rw [h, hstate, userOf_of_some task hwork] at hlt
      have hne : k ≠ task.iteration := by
        intro heq
        rw [heq] at hlt
        exact absurd hlt (Nat.lt_irrefl _)
      rw [h, Function.update_self, Function.update_of_ne hne]
    · rw [Function.update_of_ne h]
  · rw [Function.update_self, Function.update_self]
    have htime : nanos task.since + (nanos task.wake - nanos task.since) = nanos task.wake := by
      omega
    exact ⟨⟨Nat.le_of_eq htime, fun _ => htime.symm⟩, rfl⟩

end Following

section Shifts

variable {crew : Nat} {scenarios : List Scenario} {scenario : Scenario}
variable {plans : Nat → Nat → Iteration} {trace : List (Nat × Act)} {world : World}
variable {task : Executor.Task Unit} {agenda : List (Executor.Task Unit)}
variable {events : List Executor.Event} {s t : Executor.Schedule}

theorem mayBegin_iff (hscenario : scenarios[crew]? = some scenario) (hcrew : task.crew = crew) :
    Executor.mayBegin scenarios task = true ↔ nanos task.wake < scenario.duration.nanos := by
  unfold Executor.mayBegin Executor.beforeDeadline nanos
  rw [hcrew, hscenario]
  exact decide_eq_true_iff

theorem follows_begin (hscenario : scenarios[crew]? = some scenario)
    (hs : Follows crew scenario.vus.val scenario.duration.nanos plans ⟨task :: agenda, events⟩
      trace world)
    (hwork : task.work = none) (hmay : Executor.mayBegin scenarios task = true) :
    ∃ plans' trace' world', Follows crew scenario.vus.val scenario.duration.nanos plans'
      ⟨{ task with since := task.wake, work := some () } :: agenda, events⟩ trace' world' := by
  have hreplaced := Executor.replaced_head hs.orderly
    { task with since := task.wake, work := some () } rfl rfl fun _ => Nat.le_refl _
  by_cases hcrew : task.crew = crew
  · have hlt := (mayBegin_iff hscenario hcrew).mp hmay
    have hstep : Step True (0 + scenario.duration.nanos) (plans task.user) (userOf task)
        ⟨.begin task.iteration, nanos task.wake⟩ ⟨.busy, nanos task.wake, task.iteration⟩ := by
      rw [userOf_of_none task hwork]
      exact .begin _ _ _ ⟨Nat.le_refl _, fun _ => rfl⟩ (by omega)
    refine follows_own hs hcrew (fun _ _ _ => rfl) (steps_single hstep) (fun act hact => ?_)
      hreplaced ?_ (fun h => absurd h (Option.some_ne_none _)) (List.append_nil _).symm
    · rw [List.mem_singleton.mp hact]
    · rintro _ ⟨⟩
      rfl
  · exact ⟨plans, trace, world, follows_foreign hs hcrew hreplaced rfl⟩

theorem follows_sleep
    (hs : Follows crew scenario.vus.val scenario.duration.nanos plans ⟨task :: agenda, events⟩
      trace world)
    (hwork : task.work = some ()) (millis : Nat) :
    ∃ plans' trace' world', Follows crew scenario.vus.val scenario.duration.nanos plans'
      ⟨Executor.schedule { task with wake := task.wake + millis } agenda, events⟩
      trace' world' := by
  have hsince := hs.orderly.since task List.mem_cons_self hwork
  have hreplaced := Executor.replaced_schedule hs.orderly
    { task with wake := task.wake + millis } rfl (Nat.le_add_right _ _)
    fun _ => Nat.le_trans hsince (Nat.le_add_right _ _)
  by_cases hcrew : task.crew = crew
  · -- Nothing happens to the user: its iteration goes on.
    refine follows_own hs hcrew (fun _ _ _ => rfl) Steps.nil
      (fun _ h => absurd h List.not_mem_nil) hreplaced ?_
      (fun h => absurd h (Option.some_ne_none _)) (List.append_nil _).symm
    rintro _ ⟨⟩
    have hlater := userOf_of_some { task with wake := task.wake + millis } hwork
    rw [userOf_of_some task hwork, hlater]
  · exact ⟨plans, trace, world, follows_foreign hs hcrew hreplaced rfl⟩

theorem follows_finish
    (hs : Follows crew scenario.vus.val scenario.duration.nanos plans ⟨task :: agenda, events⟩
      trace world)
    (hwork : task.work = some ()) :
    ∃ plans' trace' world', Follows crew scenario.vus.val scenario.duration.nanos plans'
      ⟨{ task with iteration := task.iteration + 1, work := none } :: agenda,
        .completed task.crew task.user task.iteration task.since task.wake :: events⟩
      trace' world' := by
  have hreplaced := Executor.replaced_head hs.orderly
    { task with iteration := task.iteration + 1, work := none } rfl rfl
    fun h => absurd h.symm (Option.some_ne_none _)
  by_cases hcrew : task.crew = crew
  · rcases exists_plans hs hcrew hwork false with ⟨plans', hplans, htime, hplan⟩
    have hfinish : Step True (0 + scenario.duration.nanos) (plans' task.user) (userOf task)
        ⟨.finish task.iteration (nanos task.since), nanos task.wake⟩
        ⟨.complete, nanos task.wake, task.iteration + 1⟩ := by
      rw [userOf_of_some task hwork]
      exact .finish _ _ _ htime hplan
    have hcount : Step True (0 + scenario.duration.nanos) (plans' task.user)
        ⟨.complete, nanos task.wake, task.iteration + 1⟩ ⟨.count task.iteration, nanos task.wake⟩
        ⟨.between, nanos task.wake, task.iteration + 1⟩ :=
      .count _ _ _ ⟨Nat.le_refl _, fun _ => rfl⟩
    refine follows_own hs hcrew hplans (steps_append (steps_single hfinish) (steps_single hcount))
      (fun act hact => ?_) hreplaced ?_ (fun h => absurd h (Option.some_ne_none _)) ?_
    · rcases List.mem_append.mp hact with h | h
      · rw [List.mem_singleton.mp h]
      · rw [List.mem_singleton.mp h]
    · rintro _ ⟨⟩
      rfl
    · rw [told_cons, told?, if_pos hcrew]
      rfl
  · refine ⟨plans, trace, world, follows_foreign hs hcrew hreplaced ?_⟩
    rw [told_cons, told?, if_neg hcrew, Option.toList_none, List.append_nil]

theorem follows_crash
    (hs : Follows crew scenario.vus.val scenario.duration.nanos plans ⟨task :: agenda, events⟩
      trace world)
    (hwork : task.work = some ()) :
    ∃ plans' trace' world', Follows crew scenario.vus.val scenario.duration.nanos plans'
      ⟨agenda, .crashed task.crew task.user task.wake :: events⟩ trace' world' := by
  have hreplaced := Executor.replaced_none hs.orderly
  by_cases hcrew : task.crew = crew
  · rcases exists_plans hs hcrew hwork true with ⟨plans', hplans, htime, hplan⟩
    have hcrash : Step True (0 + scenario.duration.nanos) (plans' task.user) (userOf task)
        ⟨.crash, nanos task.wake⟩ ⟨.crashed, nanos task.wake, task.iteration⟩ := by
      rw [userOf_of_some task hwork]
      exact .crash _ _ _ htime hplan
    refine follows_own hs hcrew hplans (steps_single hcrash) (fun act hact => ?_) hreplaced
      (fun _ h => absurd h.symm (Option.some_ne_none _)) (fun _ => Or.inr rfl) ?_
    · rw [List.mem_singleton.mp hact]
    · rw [told_cons, told?, if_pos hcrew]
      rfl
  · refine ⟨plans, trace, world, follows_foreign hs hcrew hreplaced ?_⟩
    rw [told_cons, told?, if_neg hcrew, Option.toList_none, List.append_nil]

theorem follows_stop (hscenario : scenarios[crew]? = some scenario)
    (hs : Follows crew scenario.vus.val scenario.duration.nanos plans ⟨task :: agenda, events⟩
      trace world)
    (hwork : task.work = none) (hmay : Executor.mayBegin scenarios task = false) :
    ∃ plans' trace' world', Follows crew scenario.vus.val scenario.duration.nanos plans'
      ⟨agenda, .stopped task.crew task.user task.wake :: events⟩ trace' world' := by
  have hreplaced := Executor.replaced_none hs.orderly
  by_cases hcrew : task.crew = crew
  · have hle : scenario.duration.nanos ≤ nanos task.wake := by
      refine Nat.le_of_not_lt fun hlt => ?_
      rw [(mayBegin_iff hscenario hcrew).mpr hlt] at hmay
      exact Bool.noConfusion hmay
    have hstop : Step True (0 + scenario.duration.nanos) (plans task.user) (userOf task)
        ⟨.stop, nanos task.wake⟩ ⟨.stopped, nanos task.wake, task.iteration⟩ := by
      rw [userOf_of_none task hwork]
      exact .stop _ _ _ ⟨Nat.le_refl _, fun _ => rfl⟩ (by omega)
    refine follows_own hs hcrew (fun _ _ _ => rfl) (steps_single hstop) (fun act hact => ?_)
      hreplaced (fun _ h => absurd h.symm (Option.some_ne_none _)) (fun _ => Or.inl rfl) ?_
    · rw [List.mem_singleton.mp hact]
    · rw [told_cons, told?, if_pos hcrew]
      rfl
  · refine ⟨plans, trace, world, follows_foreign hs hcrew hreplaced ?_⟩
    rw [told_cons, told?, if_neg hcrew, Option.toList_none, List.append_nil]

/-- A crew follows each shift of the schedule. -/
theorem follows_shift (hscenario : scenarios[crew]? = some scenario)
    (hs : Follows crew scenario.vus.val scenario.duration.nanos plans s trace world)
    (hshift : Executor.Shift scenarios s t) :
    ∃ plans' trace' world',
      Follows crew scenario.vus.val scenario.duration.nanos plans' t trace' world' := by
  cases hshift with
  | begin task agenda events hwork hmay => exact follows_begin hscenario hs hwork hmay
  | sleep task agenda events millis hwork => exact follows_sleep hs hwork millis
  | finish task agenda events hwork => exact follows_finish hs hwork
  | crash task agenda events hwork => exact follows_crash hs hwork
  | stop task agenda events hwork hmay => exact follows_stop hscenario hs hwork hmay

/-- So it follows any number of them. -/
theorem follows_shifts (hscenario : scenarios[crew]? = some scenario)
    (hs : Follows crew scenario.vus.val scenario.duration.nanos plans s trace world)
    (hshifts : Relation.ReflTransGen (Executor.Shift scenarios) s t) :
    ∃ plans' trace' world',
      Follows crew scenario.vus.val scenario.duration.nanos plans' t trace' world' := by
  induction hshifts with
  | refl => exact ⟨plans, trace, world, hs⟩
  | tail _ hshift ih =>
      rcases ih with ⟨plans', trace', world', hs'⟩
      exact follows_shift hscenario hs' hshift

/-- Before the first turn nobody has done anything. -/
theorem follows_start (hscenario : scenarios[crew]? = some scenario)
    (plans : Nat → Nat → Iteration) :
    Follows crew scenario.vus.val scenario.duration.nanos plans
      ⟨(Executor.crews (α := α) 0 scenarios).map Executor.Task.outline, []⟩ []
      ⟨0, fun _ => .fresh 0, 0, .waiting 1⟩ := by
  have hfresh : ∀ task ∈ (Executor.crews (α := α) 0 scenarios).map Executor.Task.outline,
      userOf task = .fresh 0 ∧
        (task.crew = crew → task.user ∈ Finset.Icc 1 scenario.vus.val) := by
    intro task htask
    rcases List.mem_map.mp htask with ⟨task, hmem, rfl⟩
    rcases (Executor.mem_crews hmem).2 with ⟨s, hs, hcrew⟩
    rcases Executor.mem_crew hcrew with ⟨-, huser, hwake, hiteration, hwork⟩
    refine ⟨?_, fun hsame => ?_⟩
    · unfold userOf Executor.Task.outline
      rw [hwork, hwake, hiteration]
      rfl
    · have hcrew' : task.crew = crew := hsame
      rw [Nat.sub_zero, hcrew', hscenario, Option.some.injEq] at hs
      rw [List.mem_range'_1, ← hs] at huser
      have hlast : task.outline.user = task.user := rfl
      rw [Finset.mem_Icc, hlast]
      omega
  refine ⟨Run.start, rfl, rfl, Executor.orderly_crews scenarios, fun _ _ => Nat.zero_le _,
    fun task htask hcrew => ⟨(hfresh task htask).2 hcrew, (hfresh task htask).1.symm⟩,
    fun i hi => Or.inr ?_⟩
  have hmember := Finset.mem_Icc.mp hi
  have hrange : i ∈ List.range' 1 scenario.vus.val := by
    rw [List.mem_range'_1]
    omega
  have htask := Executor.exists_crews hscenario _ (List.mem_map_of_mem
    (f := fun user => (⟨0 + crew, user, 0, 0, 0, none⟩ : Executor.Task α)) hrange)
  refine List.mem_map.mpr ⟨_, List.mem_map_of_mem htask, ?_⟩
  exact Prod.ext (Nat.zero_add crew) rfl

end Shifts

section Events

variable {exact : Prop} {crew vus start duration : Nat} {plans : Nat → Nat → Iteration}
variable {trace : List (Nat × Act)} {world : World} {events : List Executor.Event}

/-- The events tell of every user of a scenario that it has stopped or crashed. -/
def AllEnded (events : List Executor.Event) (crew vus : Nat) : Prop :=
  ∀ i ∈ Finset.Icc 1 vus, ∃ time,
    .stopped crew i time ∈ events ∨ .crashed crew i time ∈ events

theorem completes_iff_told (event : Executor.Event) :
    event.completes crew = ((told? crew event).map fun entry => entry.2.finishes).getD false := by
  cases event with
  | completed c user iteration start stop =>
      simp only [Executor.Event.completes, told?]
      by_cases h : c = crew
      · rw [if_pos h]
        exact decide_eq_true h
      · rw [if_neg h]
        exact decide_eq_false h
  | stopped c user time | crashed c user time =>
      simp only [Executor.Event.completes, told?]
      by_cases h : c = crew
      · rw [if_pos h]
        rfl
      · rw [if_neg h]
        rfl

/-- The events tell all complete iterations of a scenario. -/
theorem countP_completes_of_told
    (htold : events.filterMap (told? crew) = trace.filter fun entry => entry.2.isTold) :
    events.countP (·.completes crew) = completions trace := by
  have hfinishes : ∀ act : Act, (act.finishes && act.isTold) = act.finishes := by
    rintro ⟨deed, time⟩
    cases deed <;> rfl
  have hevents : events.countP (·.completes crew)
      = (events.filterMap (told? crew)).countP fun entry => entry.2.finishes := by
    rw [List.countP_filterMap]
    exact List.countP_congr fun event _ => by rw [completes_iff_told]
  unfold completions
  rw [hevents, htold, List.countP_filter]
  exact List.countP_congr fun entry _ => by rw [hfinishes]

theorem le_foldl_ending (crew : Nat) (events : List Executor.Event) (last : Nat) :
    last ≤ events.foldl (fun last event => max last (event.ending crew)) last ∧
    ∀ event ∈ events,
      event.ending crew ≤ events.foldl (fun last event => max last (event.ending crew)) last := by
  induction events generalizing last with
  | nil => exact ⟨Nat.le_refl last, fun _ h => absurd h List.not_mem_nil⟩
  | cons first rest ih =>
      rcases ih (max last (first.ending crew)) with ⟨hlast, hrest⟩
      rw [List.foldl_cons]
      refine ⟨Nat.le_trans (Nat.le_max_left _ _) hlast, fun event hevent => ?_⟩
      rcases List.mem_cons.mp hevent with heq | hmem
      · rw [heq]
        exact Nat.le_trans (Nat.le_max_right _ _) hlast
      · exact hrest event hmem

theorem le_ending (crew : Nat) (events : List Executor.Event) (event : Executor.Event)
    (hevent : event ∈ events) : event.ending crew ≤ Executor.ending events crew :=
  (le_foldl_ending crew events 0).2 event hevent

/-- The steps that the events tell were taken. -/
theorem mem_of_told
    (htold : events.filterMap (told? crew) = trace.filter fun entry => entry.2.isTold)
    (event : Executor.Event) (hevent : event ∈ events) (entry : Nat × Act)
    (hentry : told? crew event = some entry) : entry ∈ trace := by
  have hmem : entry ∈ events.filterMap (told? crew) :=
    List.mem_filterMap.mpr ⟨event, hevent, hentry⟩
  rw [htold] at hmem
  exact (List.mem_filter.mp hmem).1

/-- A user of which the events tell that it has stopped or crashed is gone since then. -/
theorem gone_of_told (hrun : Run exact vus start duration plans trace world)
    (htold : events.filterMap (told? crew) = trace.filter fun entry => entry.2.isTold)
    (event : Executor.Event) (hevent : event ∈ events) (i : Nat) (act : Act)
    (hact : told? crew event = some (i, act)) (hend : act.deed = .stop ∨ act.deed = .crash) :
    (world.users i).IsGone ∧ (world.users i).since = act.time := by
  have hown := mem_own.mpr (mem_of_told htold event hevent (i, act) hact)
  rcases record_steps (steps_own_run hrun i) with ⟨rounds, tail, hrecord⟩
  have hending := ending_of_record hrecord hown
  rcases hend with hstop | hcrash
  · rw [(hending.1 hstop).2]
    exact ⟨Or.inl rfl, rfl⟩
  · rw [(hending.2 hcrash).2]
    exact ⟨Or.inr rfl, rfl⟩

/-- When all users have ended, nothing is left to do, and the last end is the last step. -/
theorem resolved_of_allEnded (hrun : Run exact vus 0 duration plans trace world)
    (hwatch : world.watch = .waiting 1)
    (htold : events.filterMap (told? crew) = trace.filter fun entry => entry.2.isTold)
    (hended : AllEnded events crew vus) :
    Run exact vus 0 duration plans trace { world with
      clock := nanos (Executor.ending events crew)
      watch := .resolved (.ofNat (completions trace)) (nanos (Executor.ending events crew)) } := by
  have hgone : ∀ i ∈ Finset.Icc 1 vus, (world.users i).IsGone ∧
      (world.users i).since ≤ nanos (Executor.ending events crew) := by
    intro i hi
    rcases hended i hi with ⟨time, hstopped | hcrashed⟩
    · have hle := le_ending crew events _ hstopped
      have htime := gone_of_told hrun htold _ hstopped i ⟨.stop, nanos time⟩ (if_pos rfl)
        (Or.inl rfl)
      simp only [Executor.Event.ending, if_true] at hle
      exact ⟨htime.1, by rw [htime.2]; exact nanos_mono hle⟩
    · have hle := le_ending crew events _ hcrashed
      have htime := gone_of_told hrun htold _ hcrashed i ⟨.crash, nanos time⟩ (if_pos rfl)
        (Or.inr rfl)
      simp only [Executor.Event.ending, if_true] at hle
      exact ⟨htime.1, by rw [htime.2]; exact nanos_mono hle⟩
  -- The clock shows the time of some step, and no user takes one after its end.
  have hclock : world.clock ≤ nanos (Executor.ending events crew) := by
    rcases clock_of_waiting hrun 1 hwatch with h | ⟨entry, hentry, h⟩
    · omega
    · have htimes := (times_of_steps (steps_own_run hrun entry.1)).1 entry.2 (mem_own.mpr hentry)
      have hlast := (hgone entry.1 (mem_of_run hrun entry hentry)).2
      omega
  exact resolved_of_allGone hrun (fun i hi => (hgone i hi).1) 1 hwatch _ hclock

/-- What the executor does with a scenario, next to whatever others, is a run of its crew on
an exact clock. When all its users have ended, the run is over with what the statistics
say. -/
theorem exists_run_of_events (w : Workload σ α) (scenarios : List Scenario) (bound : Nat)
    (before : σ) (crew : Nat) (scenario : Scenario)
    (hscenario : scenarios[crew]? = some scenario) :
    let events := (Executor.run w scenarios bound before).1
    let statistics := Executor.statistics events crew scenario
    ∃ plans trace world, Run True statistics.vus 0 scenario.duration.nanos plans trace world ∧
      (events.filterMap (told? crew) = trace.filter fun entry => entry.2.isTold) ∧
      statistics.iterations = completions trace ∧
      (AllEnded events crew statistics.vus →
        world.watch = .resolved (.ofNat statistics.iterations) statistics.elapsed.nanos) := by
  intro events statistics
  have hstart := follows_start (α := α) hscenario fun _ _ => ⟨0, false⟩
  have hshifts := Executor.shifts_turns scenarios w bound
    ⟨Executor.crews 0 scenarios, before, []⟩
  rcases follows_shifts hscenario hstart hshifts with ⟨plans, trace, world, hfollows⟩
  have htold : events.filterMap (told? crew) = trace.filter fun entry => entry.2.isTold :=
    hfollows.told
  have hiterations : statistics.iterations = completions trace := countP_completes_of_told htold
  by_cases hended : AllEnded events crew scenario.vus.val
  · refine ⟨plans, trace, _, resolved_of_allEnded hfollows.run hfollows.watch htold hended, htold,
      hiterations, fun _ => ?_⟩
    rw [hiterations]
    rfl
  · exact ⟨plans, trace, world, hfollows.run, htold, hiterations, fun h => absurd h hended⟩

end Events

end Crew

end PageSweep
