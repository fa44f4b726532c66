import Mathlib.Order.Interval.Finset.Nat
import PageSweep.Proofs.Scenario.Exact

/-!
# A Crew on One Clock

The users of a crew take their steps in any order on a clock that never goes back. They
share the deadline and the counter to which a complete iteration is added, and nothing
else. Whoever runs the crew waits for its users in the order of their numbers, whether
they have stopped or crashed. When none is left it reads the counter, looks at the clock
and is done.

Out of a run each user can be picked: its own steps are those of a user alone. The other
way round, whatever steps the users take alone can be put in the order of their times, and
that is a run of the crew. So no user learns what becomes of the others. A user that
crashes is one of the ways in which a user can go on, and the others do just what they do
when it does not crash.

## Main definitions

* `World`, `Watch`: A crew, its clock, its counter, and the one that runs it.
* `Run`: The runs of a crew.
* `AllGone`: No user takes another step.
* `completions`: The complete iterations of a run.

## Theorems

* `steps_own_run`: The own steps of a user.
* `clock_run`, `counter_run`, `watched_run`: The clock, the counter, and what was waited for.
* `resolved_run`: What holds when a run is over.
* `run_congr`: Iterations that are not used yet do not matter.
* `run_append_steps`: A user takes several steps at once.
* `resolved_of_allGone`, `exists_resolved`: When a run can be over.
* `exists_run`, `run_replaced`: The users of a crew are independent.
-/

namespace PageSweep

namespace Crew

open Interleaving

/-- What the one that runs a crew is at. -/
inductive Watch where
  /-- It waits for the user with that number. -/
  | waiting (number : Nat)
  /-- It has waited for all users and read the counter. -/
  | counted (iterations : UInt64)
  /-- It is done. -/
  | resolved (iterations : UInt64) (elapsed : Nat)

/-- A crew between two steps. -/
structure World where
  clock : Nat
  /-- The users by their numbers, which begin with one. -/
  users : Nat → User
  counter : UInt64
  watch : Watch

/-- The crew after a step of a user. -/
def World.after (world : World) (i : Nat) (act : Act) (u : User) : World :=
  { world with
    clock := act.time
    users := Function.update world.users i u
    counter := if act.counts then world.counter + 1 else world.counter }

/-- The users with the numbers up to `vus` take no more steps. -/
def AllGone (vus : Nat) (users : Nat → User) : Prop :=
  ∀ i ∈ Finset.Icc 1 vus, (users i).IsGone

/-- The complete iterations of a run. -/
def completions (trace : List (Nat × Act)) : Nat :=
  trace.countP fun entry => entry.2.finishes

section Runs

variable (exact : Prop) (vus start duration : Nat) (plans : Nat → Nat → Iteration)

/-- The runs of a crew that starts at a time. Every user has a plan of its own. -/
inductive Run : List (Nat × Act) → World → Prop where
  | start : Run [] ⟨start, fun _ => .fresh start, 0, .waiting 1⟩
  /-- Some user takes a step. -/
  | act (trace : List (Nat × Act)) (world : World) (i : Nat) (act : Act) (u : User)
      (hrun : Run trace world) (hi : i ∈ Finset.Icc 1 vus) (hclock : world.clock ≤ act.time)
      (hstep : Step exact (start + duration) (plans i) (world.users i) act u) :
      Run (trace ++ [(i, act)]) (world.after i act u)
  /-- The user that is waited for is gone. -/
  | join (trace : List (Nat × Act)) (world : World) (number : Nat) (hrun : Run trace world)
      (hwatch : world.watch = .waiting number) (hle : number ≤ vus)
      (hgone : (world.users number).IsGone) :
      Run trace { world with watch := .waiting (number + 1) }
  | read (trace : List (Nat × Act)) (world : World) (hrun : Run trace world)
      (hwatch : world.watch = .waiting (vus + 1)) :
      Run trace { world with watch := .counted world.counter }
  | resolve (trace : List (Nat × Act)) (world : World) (iterations : UInt64) (time : Nat)
      (hrun : Run trace world) (hwatch : world.watch = .counted iterations)
      (hclock : world.clock ≤ time) :
      Run trace { world with clock := time, watch := .resolved iterations (time - start) }

/-- What the one that runs a crew can rely on. -/
def Watched (world : World) : Prop :=
  match world.watch with
  | .waiting number =>
    1 ≤ number ∧ number ≤ vus + 1 ∧ ∀ i, 1 ≤ i → i < number → (world.users i).IsGone
  | .counted iterations => AllGone vus world.users ∧ iterations = world.counter
  | .resolved iterations elapsed =>
    AllGone vus world.users ∧ iterations = world.counter ∧ world.clock = start + elapsed

end Runs

section Users

variable {exact : Prop} {vus start duration : Nat} {plans : Nat → Nat → Iteration}
variable {trace : List (Nat × Act)} {world : World}

theorem users_after_self (world : World) (i : Nat) (act : Act) (u : User) :
    (world.after i act u).users i = u :=
  Function.update_self _ _ _

theorem users_after_of_ne (world : World) (i j : Nat) (act : Act) (u : User) (hne : j ≠ i) :
    (world.after i act u).users j = world.users j :=
  Function.update_of_ne hne _ _

/-- The own steps of a user are those of a user alone. -/
theorem steps_own_run (hrun : Run exact vus start duration plans trace world) (i : Nat) :
    Steps (Step exact (start + duration) (plans i)) (User.fresh start) (own i trace)
      (world.users i) := by
  induction hrun with
  | start => exact Steps.nil
  | act trace world j act u hrun hj hclock hstep ih =>
      rw [own_append]
      by_cases h : j = i
      · rw [h] at hstep ⊢
        rw [own_singleton_self, users_after_self]
        exact Steps.snoc _ _ _ _ ih hstep
      · have hne : i ≠ j := fun hc => h hc.symm
        rw [own_singleton_of_ne i j act h, List.append_nil, users_after_of_ne _ _ _ _ _ hne]
        exact ih
  | join | read | resolve => assumption

theorem mem_of_run (hrun : Run exact vus start duration plans trace world) :
    ∀ entry ∈ trace, entry.1 ∈ Finset.Icc 1 vus := by
  induction hrun with
  | start => exact fun _ h => absurd h List.not_mem_nil
  | act trace world i act u hrun hi hclock hstep ih =>
      intro entry hentry
      rcases List.mem_append.mp hentry with h | h
      · exact ih entry h
      · rw [List.mem_singleton.mp h]
        exact hi
  | join | read | resolve => assumption

/-- The clock never goes back. -/
theorem clock_run (hrun : Run exact vus start duration plans trace world) :
    start ≤ world.clock ∧ ∀ entry ∈ trace, entry.2.time ≤ world.clock := by
  induction hrun with
  | start => exact ⟨Nat.le_refl _, fun _ h => absurd h List.not_mem_nil⟩
  | act trace world i act u hrun hi hclock hstep ih =>
      refine ⟨Nat.le_trans ih.1 hclock, fun entry hentry => ?_⟩
      rcases List.mem_append.mp hentry with h | h
      · exact Nat.le_trans (ih.2 entry h) hclock
      · rw [List.mem_singleton.mp h]
        exact Nat.le_refl _
  | join | read => assumption
  | resolve trace world iterations time hrun hwatch hclock ih =>
      exact ⟨Nat.le_trans ih.1 hclock, fun entry h => Nat.le_trans (ih.2 entry h) hclock⟩

/-- As long as somebody is waited for, the clock shows when the last step was taken. -/
theorem clock_of_waiting (hrun : Run exact vus start duration plans trace world) (number : Nat)
    (hwatch : world.watch = .waiting number) :
    world.clock = start ∨ ∃ entry ∈ trace, entry.2.time = world.clock := by
  induction hrun generalizing number with
  | start => exact Or.inl rfl
  | act trace world i act u hrun hi hclock hstep ih =>
      exact Or.inr ⟨(i, act), List.mem_append_right _ (List.mem_singleton_self _), rfl⟩
  | join trace world before hrun hbefore hle hgone ih => exact ih before hbefore
  | read | resolve => exact Watch.noConfusion hwatch

/-- Each step that counts an iteration is in the counter once. -/
theorem counter_run (hrun : Run exact vus start duration plans trace world) :
    world.counter = .ofNat (trace.countP fun entry => entry.2.counts) := by
  induction hrun with
  | start => rfl
  | act trace world i act u hrun hi hclock hstep ih =>
      unfold World.after
      rw [List.countP_append, List.countP_singleton]
      by_cases h : act.counts = true
      · simp only [h, if_true]
        rw [UInt64.ofNat_add, ih]
        rfl
      · simp only [h, Bool.false_eq_true, if_false, Nat.add_zero]
        exact ih
  | join | read | resolve => assumption

/-- A step of a user leaves those alone that are gone. -/
theorem gone_after (i j : Nat) (act : Act) (u : User)
    (hstep : Step exact (start + duration) (plans i) (world.users i) act u)
    (hgone : (world.users j).IsGone) : ((world.after i act u).users j).IsGone := by
  by_cases h : j = i
  · rw [h] at hgone
    exact absurd hstep (not_step_of_isGone hgone)
  · rw [users_after_of_ne _ _ _ _ _ h]
    exact hgone

/-- No user takes a step when all are gone. -/
theorem not_step_of_allGone (i : Nat) (act : Act) (u : User) (hi : i ∈ Finset.Icc 1 vus)
    (hstep : Step exact (start + duration) (plans i) (world.users i) act u) :
    ¬ AllGone vus world.users := by
  intro hgone
  exact not_step_of_isGone (hgone i hi) hstep

theorem watched_run (hrun : Run exact vus start duration plans trace world) :
    Watched vus start world := by
  induction hrun with
  | start =>
      refine ⟨Nat.le_refl _, by omega, fun i hfirst hlt => ?_⟩
      omega
  | act trace world i act u hrun hi hclock hstep ih =>
      have hsame : (world.after i act u).watch = world.watch := rfl
      unfold Watched at ih ⊢
      rw [hsame]
      cases hwatch : world.watch with
      | waiting number =>
          rw [hwatch] at ih
          exact ⟨ih.1, ih.2.1, fun j hfirst hlt =>
            gone_after i j act u hstep (ih.2.2 j hfirst hlt)⟩
      | counted iterations =>
          -- All users are gone, so this step was not taken.
          rw [hwatch] at ih
          exact absurd ih.1 (not_step_of_allGone i act u hi hstep)
      | resolved iterations elapsed =>
          rw [hwatch] at ih
          exact absurd ih.1 (not_step_of_allGone i act u hi hstep)
  | join trace world number hrun hwatch hle hgone ih =>
      unfold Watched at ih
      rw [hwatch] at ih
      refine ⟨by omega, by omega, fun i hfirst hlt => ?_⟩
      by_cases h : i = number
      · rw [h]
        exact hgone
      · exact ih.2.2 i hfirst (by omega)
  | read trace world hrun hwatch ih =>
      unfold Watched at ih
      rw [hwatch] at ih
      refine ⟨fun i hi => ?_, rfl⟩
      have hmem := Finset.mem_Icc.mp hi
      exact ih.2.2 i hmem.1 (by omega)
  | resolve trace world iterations time hrun hwatch hclock ih =>
      have hstart := (clock_run hrun).1
      unfold Watched at ih
      rw [hwatch] at ih
      refine ⟨ih.1, ih.2, ?_⟩
      change time = start + (time - start)
      omega

/-- When all users are gone, the iterations that are counted are the complete ones. -/
theorem counts_of_allGone (hrun : Run exact vus start duration plans trace world)
    (hgone : AllGone vus world.users) :
    (trace.countP fun entry => entry.2.counts) = completions trace := by
  have hmem := mem_of_run hrun
  have hown : ∀ i ∈ Finset.Icc 1 vus,
      (own i trace).countP Act.counts = (own i trace).countP Act.finishes := by
    intro i hi
    rcases record_steps (steps_own_run hrun i) with ⟨rounds, tail, hrecord⟩
    rcases counts_of_record hrecord (hgone i hi) with ⟨hfinishes, hcounts, -⟩
    rw [hfinishes, hcounts]
  unfold completions
  rw [countP_own (Finset.Icc 1 vus) (fun _ => Act.counts) trace hmem,
    countP_own (Finset.Icc 1 vus) (fun _ => Act.finishes) trace hmem]
  exact Finset.sum_congr rfl hown

/-- A run is over only when all users are gone. It tells how many iterations they have
completed, and it lasts as long as the last of them. -/
theorem resolved_run (hrun : Run exact vus start duration plans trace world) (iterations : UInt64)
    (elapsed : Nat) (hwatch : world.watch = .resolved iterations elapsed) :
    AllGone vus world.users ∧ iterations = .ofNat (completions trace) ∧
      ∀ entry ∈ trace, entry.2.time ≤ start + elapsed := by
  have hwatched := watched_run hrun
  unfold Watched at hwatched
  rw [hwatch] at hwatched
  rcases hwatched with ⟨hgone, hiterations, hclock⟩
  refine ⟨hgone, ?_, ?_⟩
  · rw [hiterations, counter_run hrun, counts_of_allGone hrun hgone]
  · rw [← hclock]
    exact (clock_run hrun).2

/-- What plans say about iterations whose ends lie ahead does not matter. -/
theorem run_congr (others : Nat → Nat → Iteration)
    (hrun : Run exact vus start duration plans trace world)
    (heq : ∀ i, ∀ k < (world.users i).used, others i k = plans i k) :
    Run exact vus start duration others trace world := by
  induction hrun with
  | start => exact Run.start
  | act trace world i act u hrun hi hclock hstep ih =>
      refine Run.act trace world i act u (ih fun j k hlt => ?_) hi hclock
        (step_congr (others i) hstep fun k hlt => ?_)
      · by_cases h : j = i
        · have hle := used_le_of_step hstep
          rw [h] at hlt ⊢
          refine heq i k ?_
          rw [users_after_self]
          omega
        · refine heq j k ?_
          rw [users_after_of_ne _ _ _ _ _ h]
          exact hlt
      · refine heq i k ?_
        rw [users_after_self]
        exact hlt
  | join trace world number hrun hwatch hle hgone ih =>
      exact Run.join trace world number (ih heq) hwatch hle hgone
  | read trace world hrun hwatch ih => exact Run.read trace world (ih heq) hwatch
  | resolve trace world iterations time hrun hwatch hclock ih =>
      exact Run.resolve trace world iterations time (ih heq) hwatch hclock

/-- A user may take several steps at one time. -/
theorem run_append_steps (hrun : Run exact vus start duration plans trace world) (i : Nat)
    (hi : i ∈ Finset.Icc 1 vus) (acts : List Act) (u : User)
    (hsteps : Steps (Step exact (start + duration) (plans i)) (world.users i) acts u)
    (time : Nat) (hclock : world.clock ≤ time) (htimes : ∀ act ∈ acts, act.time = time) :
    ∃ world', Run exact vus start duration plans (trace ++ acts.map fun act => (i, act)) world' ∧
      world'.users = Function.update world.users i u ∧ world'.watch = world.watch ∧
      world'.clock ≤ time := by
  induction hsteps with
  | nil =>
      refine ⟨world, ?_, (Function.update_eq_self _ _).symm, rfl, hclock⟩
      rw [List.map_nil, List.append_nil]
      exact hrun
  | snoc acts act t u hsteps hstep ih =>
      rcases ih (fun other h => htimes other (List.mem_append_left _ h))
        with ⟨between, hbetween, husers, hwatch, hle⟩
      have htime := htimes act (List.mem_append_right _ (List.mem_singleton_self _))
      have hstep' : Step exact (start + duration) (plans i) (between.users i) act u := by
        rw [husers, Function.update_self]
        exact hstep
      refine ⟨between.after i act u, ?_, ?_, hwatch, by rw [← htime]; exact Nat.le_refl _⟩
      · rw [List.map_append, ← List.append_assoc]
        exact Run.act _ between i act u hbetween hi (by omega) hstep'
      · unfold World.after
        rw [husers, Function.update_idem]

/-- When all users are gone, those that are left can be waited for one after another. -/
theorem join_of_allGone (hrun : Run exact vus start duration plans trace world)
    (hgone : AllGone vus world.users) (number : Nat) (hwatch : world.watch = .waiting number)
    (more : Nat) (hle : number + more ≤ vus + 1) :
    Run exact vus start duration plans trace
      { world with watch := .waiting (number + more) } := by
  have hwatched := watched_run hrun
  unfold Watched at hwatched
  rw [hwatch] at hwatched
  induction more with
  | zero =>
      rw [Nat.add_zero, ← hwatch]
      exact hrun
  | succ more ih =>
      have hmem : number + more ∈ Finset.Icc 1 vus := Finset.mem_Icc.mpr ⟨by omega, by omega⟩
      exact Run.join trace { world with watch := .waiting (number + more) } (number + more)
        (ih (by omega)) rfl (by omega) (hgone _ hmem)

/-- When all users are gone, the run can be over at any time from then on. -/
theorem resolved_of_allGone (hrun : Run exact vus start duration plans trace world)
    (hgone : AllGone vus world.users) (number : Nat) (hwatch : world.watch = .waiting number)
    (time : Nat) (hclock : world.clock ≤ time) :
    Run exact vus start duration plans trace { world with
      clock := time, watch := .resolved (.ofNat (completions trace)) (time - start) } := by
  have hcounter : world.counter = .ofNat (completions trace) := by
    rw [counter_run hrun, counts_of_allGone hrun hgone]
  have hwatched := watched_run hrun
  unfold Watched at hwatched
  rw [hwatch] at hwatched
  have hlast : number + (vus + 1 - number) = vus + 1 := by omega
  have hjoined := join_of_allGone hrun hgone number hwatch (vus + 1 - number) (by omega)
  rw [hlast] at hjoined
  have hread := Run.read trace _ hjoined rfl
  rw [← hcounter]
  exact Run.resolve trace { world with watch := .counted world.counter } _ time hread rfl hclock

/-- A user that may be late can be gone at any time when its iteration is due and the
deadline is reached. -/
theorem exists_gone_of_record {deadline time : Nat} {plan : Nat → Iteration}
    {rounds : List Round} {tail acts : List Act} {u : User} (hexact : ¬ exact)
    (h : Record exact start deadline plan rounds tail u acts) (hdeadline : deadline ≤ time)
    (hdue : u.since + (plan u.completed).length ≤ time) :
    ∃ more v, Steps (Step exact deadline plan) u more v ∧ v.IsGone ∧
      ∀ act ∈ more, act.time = time := by
  have hsince : u.since ≤ time := by omega
  have hlate : ∀ due, due ≤ time → OnTime exact due time := fun due hle =>
    ⟨hle, fun h => absurd h hexact⟩
  have hstop : ∀ k since, since ≤ time → Step exact deadline plan ⟨.between, since, k⟩
      ⟨.stop, time⟩ ⟨.stopped, time, k⟩ := fun k since hle => .stop _ _ _ (hlate _ hle) hdeadline
  have hcount : ∀ k since, since ≤ time → Steps (Step exact deadline plan)
      ⟨.complete, since, k + 1⟩ [⟨.count k, time⟩, ⟨.stop, time⟩] ⟨.stopped, time, k + 1⟩ := by
    intro k since hle
    exact steps_append (steps_single (.count _ _ _ (hlate _ hle)))
      (steps_single (hstop _ _ (Nat.le_refl _)))
  cases h.after with
  | between since =>
      refine ⟨_, _, steps_single (hstop _ since hsince), Or.inl rfl, fun act hact => ?_⟩
      rw [List.mem_singleton.mp hact]
  | busy begun =>
      -- The iteration crashes, or it is complete and counted before the user stops.
      by_cases hcrashes : (plan rounds.length).crashes = true
      · refine ⟨_, _, steps_single (.crash _ _ time (hlate _ hdue) hcrashes), Or.inr rfl,
          fun act hact => ?_⟩
        rw [List.mem_singleton.mp hact]
      · rw [Bool.not_eq_true] at hcrashes
        have hfinish : Step exact deadline plan ⟨.busy, begun, rounds.length⟩
            ⟨.finish rounds.length begun, time⟩ ⟨.complete, time, rounds.length + 1⟩ :=
          .finish _ _ _ (hlate _ hdue) hcrashes
        refine ⟨_, _, steps_append (steps_single hfinish) (hcount _ time (Nat.le_refl _)),
          Or.inl rfl, fun act hact => ?_⟩
        simp only [List.mem_append, List.mem_cons, List.not_mem_nil, or_false] at hact
        rcases hact with rfl | rfl | rfl
        all_goals rfl
  | complete begun ended =>
      refine ⟨_, _, hcount _ ended hsince, Or.inl rfl, fun act hact => ?_⟩
      simp only [List.mem_cons, List.not_mem_nil, or_false] at hact
      rcases hact with rfl | rfl
      all_goals rfl
  | stopped => exact ⟨[], _, Steps.nil, Or.inl rfl, fun _ h => absurd h List.not_mem_nil⟩
  | crashed => exact ⟨[], _, Steps.nil, Or.inr rfl, fun _ h => absurd h List.not_mem_nil⟩

/-- Users that may be late can be gone one after another. -/
theorem exists_gone (hexact : ¬ exact) (hrun : Run exact vus start duration plans trace world)
    (number : Nat) (hle : number ≤ vus) :
    ∃ more world', Run exact vus start duration plans (trace ++ more) world' ∧
      world'.watch = world.watch ∧ ∀ i ∈ Finset.Icc 1 number, (world'.users i).IsGone := by
  induction number with
  | zero =>
      refine ⟨[], world, ?_, rfl, fun i hi => ?_⟩
      · rw [List.append_nil]
        exact hrun
      · have hmem := Finset.mem_Icc.mp hi
        omega
  | succ number ih =>
      rcases ih (by omega) with ⟨more, between, hbetween, hwatch, hgone⟩
      rcases record_steps (steps_own_run hbetween (number + 1)) with ⟨rounds, tail, hrecord⟩
      -- A time when everything is due.
      let time : Nat := between.clock + (start + duration) + ((between.users (number + 1)).since
        + (plans (number + 1) (between.users (number + 1)).completed).length)
      rcases exists_gone_of_record hexact hrecord
        (show start + duration ≤ time by omega) (by omega) with ⟨acts, u, hsteps, hu, htimes⟩
      rcases run_append_steps hbetween (number + 1) (Finset.mem_Icc.mpr ⟨by omega, hle⟩) acts u
        hsteps time (by omega) htimes with ⟨world', hrun', husers, hwatch', -⟩
      refine ⟨more ++ acts.map fun act => (number + 1, act), world', ?_, hwatch'.trans hwatch,
        fun i hi => ?_⟩
      · rw [← List.append_assoc]
        exact hrun'
      · rw [husers]
        have hmem := Finset.mem_Icc.mp hi
        by_cases h : i = number + 1
        · rw [h, Function.update_self]
          exact hu
        · rw [Function.update_of_ne h]
          exact hgone i (Finset.mem_Icc.mpr ⟨hmem.1, by omega⟩)

/-- A run whose users may be late is never stuck: it can go on until it is over, whatever
becomes of its users. -/
theorem exists_resolved (hexact : ¬ exact) (hrun : Run exact vus start duration plans trace world) :
    ∃ more world' iterations elapsed,
      Run exact vus start duration plans (trace ++ more) world' ∧
      world'.watch = .resolved iterations elapsed := by
  cases hwatch : world.watch with
  | waiting number =>
      rcases exists_gone hexact hrun vus (Nat.le_refl vus) with ⟨more, world', hrun', hsame, hgone⟩
      exact ⟨more, _, _, _, resolved_of_allGone hrun' hgone number (hsame.trans hwatch) world'.clock
        (Nat.le_refl _), rfl⟩
  | counted iterations =>
      have hresolved := Run.resolve trace world iterations world.clock hrun hwatch (Nat.le_refl _)
      rw [← List.append_nil trace] at hresolved
      exact ⟨[], _, _, _, hresolved, rfl⟩
  | resolved iterations elapsed =>
      rw [← List.append_nil trace] at hrun
      exact ⟨[], world, iterations, elapsed, hrun, hwatch⟩

end Users

section Independence

variable {exact : Prop} {vus start duration : Nat} {plans : Nat → Nat → Iteration}

/-- Steps of users alone that stand in the order of their times are a run of the crew. -/
theorem run_of_sorted (trace : List (Nat × Act)) (users : Nat → User)
    (hmem : ∀ entry ∈ trace, entry.1 ∈ Finset.Icc 1 vus)
    (hsorted : trace.Pairwise fun first second => first.2.time ≤ second.2.time)
    (hsteps : ∀ i, Steps (Step exact (start + duration) (plans i)) (User.fresh start)
      (own i trace) (users i)) :
    ∃ world, Run exact vus start duration plans trace world ∧ world.users = users ∧
      world.watch = .waiting 1 ∧
      (world.clock = start ∨ ∃ entry ∈ trace, entry.2.time = world.clock) := by
  induction trace using List.reverseRecOn generalizing users with
  | nil =>
      exact ⟨_, Run.start, funext fun i => (eq_of_steps_nil (hsteps i)).symm, rfl, Or.inl rfl⟩
  | append_singleton trace entry ih =>
      rcases entry with ⟨i, act⟩
      rcases List.pairwise_append.mp hsorted with ⟨hfront, -, hlast⟩
      have hi := hmem (i, act) (List.mem_append_right _ (List.mem_singleton_self _))
      have hself := hsteps i
      rw [own_append, own_singleton_self] at hself
      rcases steps_of_concat hself with ⟨t, ht, hstep⟩
      -- Before its last step the user was at `t`, and the others were where they are.
      have hbefore : ∀ j, Steps (Step exact (start + duration) (plans j)) (User.fresh start)
          (own j trace) (Function.update users i t j) := by
        intro j
        by_cases h : j = i
        · rw [h, Function.update_self]
          exact ht
        · have hother := hsteps j
          rw [own_append, own_singleton_of_ne j i act (fun hc => h hc.symm),
            List.append_nil] at hother
          rw [Function.update_of_ne h]
          exact hother
      rcases ih (Function.update users i t)
        (fun entry h => hmem entry (List.mem_append_left _ h)) hfront hbefore
        with ⟨world, hrun, husers, hwatch, hclock⟩
      have hstart := (times_of_steps hself).1 act (List.mem_append_right _
        (List.mem_singleton_self _))
      have hle : world.clock ≤ act.time := by
        rcases hclock with h | ⟨entry, hentry, h⟩
        · omega
        · rw [← h]
          exact hlast entry hentry (i, act) (List.mem_singleton_self _)
      refine ⟨_, Run.act trace world i act (users i) hrun hi hle ?_, ?_, hwatch,
        Or.inr ⟨(i, act), List.mem_append_right _ (List.mem_singleton_self _), rfl⟩⟩
      · rw [husers, Function.update_self]
        exact hstep
      · unfold World.after
        rw [husers, Function.update_idem, Function.update_eq_self]

/-- All steps of some users, user by user. -/
def pooled (keys : List Nat) (acts : Nat → List Act) : List (Nat × Act) :=
  keys.flatMap fun i => (acts i).map fun act => (i, act)

theorem own_map_of_ne (i j : Nat) (acts : List Act) (hne : j ≠ i) :
    own i (acts.map fun act => (j, act)) = [] := by
  unfold own
  refine List.filterMap_eq_nil_iff.mpr fun entry hentry => ?_
  rcases List.mem_map.mp hentry with ⟨act, -, rfl⟩
  exact if_neg hne

theorem own_pooled (keys : List Nat) (acts : Nat → List Act) (hnodup : keys.Nodup) (i : Nat) :
    own i (pooled keys acts) = if i ∈ keys then acts i else [] := by
  induction keys with
  | nil => rfl
  | cons j rest ih =>
      rcases List.nodup_cons.mp hnodup with ⟨hj, hrest⟩
      have hfirst : pooled (j :: rest) acts
          = ((acts j).map fun act => (j, act)) ++ pooled rest acts := List.flatMap_cons
      rw [hfirst, own_append, ih hrest]
      by_cases h : j = i
      · rw [h] at hj ⊢
        rw [own_map_self, if_neg hj, if_pos List.mem_cons_self, List.append_nil]
      · have hmem : i ∈ j :: rest ↔ i ∈ rest := by
          rw [List.mem_cons]
          exact or_iff_right fun hc => h hc.symm
        rw [own_map_of_ne i j _ h, List.nil_append]
        simp only [hmem]

/-- Whether a step does not come after another one. -/
def notAfter (first second : Nat × Act) : Bool :=
  first.2.time ≤ second.2.time

theorem notAfter_trans (a b c : Nat × Act) (hab : notAfter a b = true)
    (hbc : notAfter b c = true) : notAfter a c = true := by
  unfold notAfter at hab hbc ⊢
  rw [decide_eq_true_eq] at hab hbc ⊢
  omega

theorem notAfter_total (a b : Nat × Act) : (notAfter a b || notAfter b a) = true := by
  unfold notAfter
  rw [Bool.or_eq_true, decide_eq_true_eq, decide_eq_true_eq]
  omega

/-- Putting steps in the order of their times leaves the steps of a user in their order. -/
theorem own_mergeSort (trace : List (Nat × Act)) (i : Nat)
    (hsorted : (own i trace).Pairwise fun first second => first.time ≤ second.time) :
    own i (trace.mergeSort notAfter) = own i trace := by
  have hkept : ((own i trace).map fun act => (i, act)).Sublist trace := by
    clear hsorted
    induction trace with
    | nil => exact List.Sublist.slnil
    | cons entry rest ih =>
        rcases entry with ⟨j, act⟩
        rw [← List.singleton_append, own_append]
        by_cases h : j = i
        · rw [h, own_singleton_self]
          exact ih.cons_cons _
        · rw [own_singleton_of_ne i j act h]
          exact ih.cons _
  have hpairwise : ((own i trace).map fun act => (i, act)).Pairwise
      (fun first second => notAfter first second = true) := by
    refine List.pairwise_map.mpr (hsorted.imp fun hle => ?_)
    unfold notAfter
    exact decide_eq_true hle
  -- A stable sort leaves what is in order already as it is, and it adds nothing to it.
  have hsublist := List.sublist_mergeSort notAfter_trans notAfter_total hpairwise hkept
  have hown : (own i trace).Sublist (own i (trace.mergeSort notAfter)) := by
    have h := hsublist.filterMap fun entry => if entry.1 = i then some entry.2 else none
    rw [← own, ← own, own_map_self] at h
    exact h
  have hlength : (own i trace).length = (own i (trace.mergeSort notAfter)).length :=
    ((List.mergeSort_perm trace notAfter).filterMap _).length_eq.symm
  exact (hown.eq_of_length hlength).symm

/-- Whatever users do alone, a crew of them can do it on one clock. -/
theorem exists_run (plans : Nat → Nat → Iteration) (acts : Nat → List Act) (users : Nat → User)
    (hsteps : ∀ i ∈ Finset.Icc 1 vus,
      Steps (Step exact (start + duration) (plans i)) (User.fresh start) (acts i) (users i)) :
    ∃ trace world, Run exact vus start duration plans trace world ∧
      world.watch = .waiting 1 ∧
      ∀ i ∈ Finset.Icc 1 vus, own i trace = acts i ∧ world.users i = users i := by
  let keys : List Nat := List.range' 1 vus
  have hkeys : ∀ i, i ∈ keys ↔ i ∈ Finset.Icc 1 vus := by
    intro i
    rw [List.mem_range'_1, Finset.mem_Icc]
    omega
  let trace : List (Nat × Act) := (pooled keys acts).mergeSort notAfter
  have hpooled : ∀ i, own i (pooled keys acts) = if i ∈ keys then acts i else [] :=
    own_pooled keys acts List.nodup_range'
  -- A user that does not belong to the crew has not done anything.
  have halone : ∀ i, Steps (Step exact (start + duration) (plans i)) (User.fresh start)
      (own i (pooled keys acts)) (if i ∈ keys then users i else User.fresh start) := by
    intro i
    rw [hpooled]
    by_cases h : i ∈ keys
    · rw [if_pos h, if_pos h]
      exact hsteps i ((hkeys i).mp h)
    · rw [if_neg h, if_neg h]
      exact Steps.nil
  have hown : ∀ i, own i trace = own i (pooled keys acts) := fun i =>
    own_mergeSort _ i (times_of_steps (halone i)).2.2
  have hmem : ∀ entry ∈ trace, entry.1 ∈ Finset.Icc 1 vus := by
    intro entry hentry
    rcases List.mem_flatMap.mp (List.mem_mergeSort.mp hentry) with ⟨i, hi, hmap⟩
    rcases List.mem_map.mp hmap with ⟨act, -, rfl⟩
    exact (hkeys i).mp hi
  have hsorted : trace.Pairwise fun first second => first.2.time ≤ second.2.time := by
    refine (List.pairwise_mergeSort notAfter_trans notAfter_total _).imp fun hle => ?_
    unfold notAfter at hle
    exact of_decide_eq_true hle
  rcases run_of_sorted trace _ hmem hsorted (fun i => by rw [hown]; exact halone i)
    with ⟨world, hrun, husers, hwatch, -⟩
  refine ⟨trace, world, hrun, hwatch, fun i hi => ?_⟩
  rw [hown, hpooled, husers]
  simp only [(hkeys i).mpr hi, if_true, and_self]

/-- Another user in the place of one of the crew: whatever it does, the others can do
just what they did. -/
theorem run_replaced {trace : List (Nat × Act)} {world : World}
    (hrun : Run exact vus start duration plans trace world) (v : Nat)
    (plan : Nat → Iteration) (acts : List Act) (u : User)
    (hsteps : Steps (Step exact (start + duration) plan) (User.fresh start) acts u) :
    ∃ trace' world', Run exact vus start duration (Function.update plans v plan) trace' world' ∧
      world'.watch = .waiting 1 ∧
      ∀ i ∈ Finset.Icc 1 vus, own i trace' = Function.update (fun j => own j trace) v acts i ∧
        world'.users i = Function.update world.users v u i := by
  refine exists_run (Function.update plans v plan) (Function.update (fun j => own j trace) v acts)
    (Function.update world.users v u) fun i _ => ?_
  by_cases h : i = v
  · rw [h, Function.update_self, Function.update_self, Function.update_self]
    exact hsteps
  · rw [Function.update_of_ne h, Function.update_of_ne h, Function.update_of_ne h]
    exact steps_own_run hrun i

end Independence

end Crew

end PageSweep
