import Mathlib.Algebra.BigOperators.Group.List.Basic
import PageSweep.Proofs.Scenario.Turns
import PageSweep.Scenario.Plan

/-!
# Plans of One Length

In a plan in which every iteration sleeps for the same time, every user begins an
iteration whenever the time since the start is a multiple of that length and the deadline
is not reached. So each user completes as many iterations as there are whole or partial
lengths in the duration, and then it stops.

Each turn of a user takes it one turn nearer to its end: two for every iteration that is
left, and one more in which it stops. The number of turns that a plan is granted is large
enough for all users.

## Main definitions

* `left`, `turnsLeft`: What a task has to do before its user stops.
* `Steady`: A state in which all tasks keep to the length.

## Theorems

* `steady_turn`: A turn keeps to the length and leaves one turn less.
* `turns_steady`: The turns are enough.
* `iterations_run`: The iterations of a plan of one length.
-/

namespace PageSweep

namespace Plan

open Executor

/-- How many iterations a task has not completed when there are `total` of them. -/
def left (total : Nat) (task : Executor.Task Unit) : Nat :=
  total - task.iteration

/-- How many turns a task takes before its user has stopped. -/
def turnsLeft (total : Nat) (task : Executor.Task Unit) : Nat :=
  match task.work with
  | none => 2 * left total task + 1
  | some () => 2 * left total task

/-- What a task says about the clock when all iterations take `millis` milliseconds. -/
structure Due (total millis : Nat) (task : Executor.Task Unit) : Prop where
  crew : task.crew = 0
  between : task.work = none → task.wake = task.iteration * millis ∧ task.iteration ≤ total
  busy : task.work = some () →
    task.wake = (task.iteration + 1) * millis ∧ task.iteration < total

/-- A state in which all tasks keep to the length. -/
structure Steady (vus total millis : Nat) (s : State Unit Unit) : Prop where
  tasks : ∀ task ∈ s.agenda, Due total millis task
  completed : s.events.countP (·.completes 0) + (s.agenda.map (left total)).sum = vus * total

section Turns

variable {p : Plan} {scenario : Scenario} {millis vus total : Nat}
variable {task : Executor.Task Unit} {agenda : List (Executor.Task Unit)} {events : List Event}

theorem sum_schedule (f : Executor.Task Unit → Nat) (task : Executor.Task Unit)
    (agenda : List (Executor.Task Unit)) :
    ((schedule task agenda).map f).sum = f task + (agenda.map f).sum := by
  rw [((schedule_perm task agenda).map f).sum_eq, List.map_cons, List.sum_cons]

/-- A turn keeps to the length and leaves one turn less. -/
theorem steady_turn (hplan : ∀ user iteration, p.entry user iteration = some millis)
    (hsleep : millis ≤ Sleep.longest)
    (htotal : ∀ k, k < total ↔ k * millis * 1000000 < scenario.duration.nanos)
    (hs : Steady vus total millis ⟨task :: agenda, (), events⟩) :
    Steady vus total millis (turn p.workload [scenario] task agenda () events) ∧
    ((turn p.workload [scenario] task agenda () events).agenda.map (turnsLeft total)).sum + 1
      = ((task :: agenda).map (turnsLeft total)).sum := by
  have hdue := hs.tasks task List.mem_cons_self
  have hagenda : ∀ other ∈ agenda, Due total millis other := fun other h =>
    hs.tasks other (List.mem_cons_of_mem _ h)
  have hcompleted : events.countP (·.completes 0)
      + (left total task + (agenda.map (left total)).sum) = vus * total := by
    rw [← List.sum_cons, ← List.map_cons]
    exact hs.completed
  rw [List.map_cons, List.sum_cons]
  unfold turn
  cases hwork : task.work with
  | some work =>
      -- The user has slept, so its iteration is complete.
      rcases hdue.busy hwork with ⟨hwake, hlt⟩
      have hleft : left total task
          = left total { task with iteration := task.iteration + 1, work := none } + 1 := by
        simp only [left]
        omega
      have hturns : turnsLeft total task
          = turnsLeft total { task with iteration := task.iteration + 1, work := none } + 1 := by
        simp only [turnsLeft, hwork, hleft]
        omega
      refine ⟨⟨fun other hother => ?_, ?_⟩, ?_⟩
      · rcases List.mem_cons.mp hother with heq | hmem
        · rw [heq]
          exact ⟨hdue.crew, fun _ => ⟨hwake, hlt⟩, fun h => absurd h.symm (Option.some_ne_none _)⟩
        · exact hagenda other hmem
      · have hcount : (Event.completed task.crew task.user task.iteration task.since task.wake
            :: events).countP (·.completes 0) = events.countP (·.completes 0) + 1 :=
          List.countP_cons_of_pos (decide_eq_true hdue.crew)
        simp only [workload, settle]
        rw [hcount, List.map_cons, List.sum_cons]
        omega
      · simp only [workload, settle, List.map_cons, List.sum_cons]
        omega
  | none =>
      -- The user looks at the clock. It begins another iteration, or none is left and it stops.
      rcases hdue.between hwork with ⟨hwake, hle⟩
      have hmay : mayBegin [scenario] task = true ↔ task.iteration < total := by
        unfold mayBegin beforeDeadline
        rw [hdue.crew, htotal, hwake]
        exact decide_eq_true_iff
      by_cases hlt : task.iteration < total
      · have hlength : Sleep.length millis = millis := Nat.min_eq_left hsleep
        simp only [hmay.mpr hlt, if_true, workload, hplan, settle, hlength]
        refine ⟨⟨fun other hother => ?_, ?_⟩, ?_⟩
        · rcases List.mem_cons.mp ((schedule_perm _ _).mem_iff.mp hother) with heq | hmem
          · rw [heq]
            refine ⟨hdue.crew, fun h => absurd h (Option.some_ne_none _), fun _ => ⟨?_, hlt⟩⟩
            simp only [hwake, Nat.succ_mul]
          · exact hagenda other hmem
        · rw [sum_schedule]
          exact hcompleted
        · rw [sum_schedule]
          simp only [turnsLeft, hwork, left]
          omega
      · have hstop : mayBegin [scenario] task = false := by
          rw [← Bool.not_eq_true, hmay]
          exact hlt
        have hleft : left total task = 0 := by
          unfold left
          omega
        simp only [hstop, Bool.false_eq_true, if_false]
        refine ⟨⟨hagenda, ?_⟩, ?_⟩
        · have hcount : (Event.stopped task.crew task.user task.wake :: events).countP
              (·.completes 0) = events.countP (·.completes 0) :=
            List.countP_cons_of_neg Bool.false_ne_true
          simp only
          rw [hcount]
          omega
        · simp only [turnsLeft, hwork, hleft]
          omega

/-- When there are enough turns, all users come to their ends. -/
theorem turns_steady (hplan : ∀ user iteration, p.entry user iteration = some millis)
    (hsleep : millis ≤ Sleep.longest)
    (htotal : ∀ k, k < total ↔ k * millis * 1000000 < scenario.duration.nanos)
    (more : Nat) (s : State Unit Unit) (hs : Steady vus total millis s)
    (hmore : (s.agenda.map (turnsLeft total)).sum ≤ more) :
    Steady vus total millis (turns p.workload [scenario] more s) ∧
      (turns p.workload [scenario] more s).agenda = [] := by
  induction more generalizing s with
  | zero =>
      refine ⟨hs, ?_⟩
      unfold turns
      rcases s with ⟨_ | ⟨task, agenda⟩, world, events⟩
      · rfl
      · -- A user that is still there has a turn to take.
        have hdue := hs.tasks task List.mem_cons_self
        rw [List.map_cons, List.sum_cons] at hmore
        cases hwork : task.work with
        | none =>
            simp only [turnsLeft, hwork] at hmore
            omega
        | some work =>
            have hlt := (hdue.busy hwork).2
            simp only [turnsLeft, hwork, left] at hmore
            omega
  | succ more ih =>
      unfold turns
      rcases s with ⟨_ | ⟨task, agenda⟩, ⟨⟩, events⟩
      · exact ⟨hs, rfl⟩
      · rcases steady_turn hplan hsleep htotal hs with ⟨hsteady, hturns⟩
        have hle : ((turn p.workload [scenario] task agenda () events).agenda.map
            (turnsLeft total)).sum ≤ more := by
          simp only at hmore
          omega
        exact ih _ hsteady hle

end Turns

theorem sum_crew (f : Executor.Task Unit → Nat) (index : Nat) (scenario : Scenario) (value : Nat)
    (hf : ∀ task ∈ crew (α := Unit) index scenario, f task = value) :
    ((crew (α := Unit) index scenario).map f).sum = scenario.vus.val * value := by
  have hlength : (crew (α := Unit) index scenario).length = scenario.vus.val := by
    unfold crew
    rw [List.length_map, List.length_range']
  rw [List.map_congr_left hf, List.map_const', List.sum_replicate, hlength, smul_eq_mul]

/-- Each user completes as many iterations as there are whole or partial lengths in the
duration. -/
theorem iterations_run (p : Plan) (scenario : Scenario) (millis : Nat) (hpos : 0 < millis)
    (hsleep : millis ≤ Sleep.longest)
    (hplan : ∀ user iteration, p.entry user iteration = some millis) :
    (statistics (p.run scenario) 0 scenario).iterations
      = scenario.vus.val * (scenario.duration.nanos ⌈/⌉ Crew.nanos millis) := by
  let total : Nat := scenario.duration.nanos ⌈/⌉ Crew.nanos millis
  have hlength : 0 < Crew.nanos millis := by
    unfold Crew.nanos
    omega
  have htotal : ∀ k, k < total ↔ k * millis * 1000000 < scenario.duration.nanos := by
    intro k
    rw [Nat.mul_assoc]
    exact Crew.lt_ceilDiv_iff scenario.duration.nanos (Crew.nanos millis) k hlength
  have hcrews : crews (α := Unit) 0 [scenario] = crew 0 scenario := List.append_nil _
  have hfresh : ∀ task ∈ crew (α := Unit) 0 scenario,
      Due total millis task ∧ left total task = total ∧ turnsLeft total task = 2 * total + 1 := by
    intro task htask
    rcases mem_crew htask with ⟨hcrew, -, hwake, hiteration, hwork⟩
    have hleft : left total task = total := by
      unfold left
      rw [hiteration, Nat.sub_zero]
    refine ⟨⟨hcrew, fun _ => ?_, fun h => ?_⟩, hleft, ?_⟩
    · rw [hwake, hiteration, Nat.zero_mul]
      exact ⟨rfl, Nat.zero_le _⟩
    · rw [hwork] at h
      exact absurd h.symm (Option.some_ne_none _)
    · unfold turnsLeft
      rw [hwork, hleft]
  have hstart : Steady scenario.vus.val total millis ⟨crews 0 [scenario], (), []⟩ := by
    refine ⟨fun task htask => ?_, ?_⟩
    · rw [hcrews] at htask
      exact (hfresh task htask).1
    · rw [hcrews, List.countP_nil, Nat.zero_add]
      exact sum_crew _ 0 scenario total fun task htask => (hfresh task htask).2.1
  have hbound : ((crews (α := Unit) 0 [scenario]).map (turnsLeft total)).sum
      ≤ p.bound scenario := by
    rw [hcrews, sum_crew _ 0 scenario (2 * total + 1) fun task htask => (hfresh task htask).2.2]
    unfold bound
    refine Nat.mul_le_mul_left _ ?_
    -- An iteration takes a millisecond at least.
    have hmillis : total ≤ scenario.duration.millis + 1 := by
      refine Nat.le_of_not_lt fun hlt => ?_
      have hbegun := (htotal _).mp hlt
      unfold Span.millis at hbegun
      have hle : (scenario.duration.nanos / 1000000 + 1) * 1
          ≤ (scenario.duration.nanos / 1000000 + 1) * millis := Nat.mul_le_mul_left _ hpos
      omega
    have hrows : 2 * (scenario.duration.millis + 2) * 1
        ≤ 2 * (scenario.duration.millis + 2)
          * ((p.rows.map List.length).foldl max 0 + 1) := Nat.mul_le_mul_left _ (by omega)
    omega
  rcases turns_steady hplan hsleep htotal (p.bound scenario) _ hstart hbound
    with ⟨hsteady, hnil⟩
  have hcompleted := hsteady.completed
  rw [hnil, List.map_nil, List.sum_nil, Nat.add_zero] at hcompleted
  rw [← hcompleted]
  exact List.countP_reverse

end Plan

end PageSweep
