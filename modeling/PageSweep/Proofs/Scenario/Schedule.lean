import Mathlib.Logic.Relation
import PageSweep.Scenario.Executor

/-!
# The Schedule of the Executor

What happens in a turn depends on what the users do, but there are not many ways in which
it can go. The user whose turn it is begins an iteration or stops, and an iteration that
is under way sleeps, is complete or crashes. That is all there is to say about a turn when
it does not matter what the users hold and what world they share, and a turn is one or two
such shifts of a schedule.

The agenda of a schedule stays in the order of the times at which its tasks wake up, and
no user has two tasks on it.

## Main definitions

* `Schedule`, `State.outline`: A state without what its users hold.
* `Shift`: What may happen to the first task of a schedule.
* `Orderly`: An agenda in its order.
* `Replaced`: An agenda after the turn of its first task.

## Theorems

* `shifts_turn`, `shifts_turns`: Turns are shifts of the schedule.
* `replaced_none`, `replaced_head`, `replaced_schedule`: What a turn does to the agenda.
* `orderly_replaced`: An agenda stays in its order.
* `orderly_crews`: The agenda at the start.
-/

namespace PageSweep

namespace Executor

variable {σ α : Type}

/-- A task without what its user holds. -/
def Task.outline (task : Task α) : Task Unit :=
  { crew := task.crew
    user := task.user
    wake := task.wake
    iteration := task.iteration
    since := task.since
    work := task.work.map fun _ => () }

/-- The user of a task. -/
def Task.key (task : Task α) : Nat × Nat :=
  (task.crew, task.user)

/-- Who wakes up when, and what happened, the last event first. -/
structure Schedule where
  agenda : List (Task Unit)
  events : List Event

/-- A state without what its users hold. -/
def State.outline (s : State σ α) : Schedule :=
  ⟨s.agenda.map Task.outline, s.events⟩

/-- What may happen to the first task of a schedule. -/
inductive Shift (scenarios : List Scenario) : Schedule → Schedule → Prop where
  | begin (task : Task Unit) (agenda : List (Task Unit)) (events : List Event)
      (hwork : task.work = none) (hmay : mayBegin scenarios task = true) :
      Shift scenarios ⟨task :: agenda, events⟩
        ⟨{ task with since := task.wake, work := some () } :: agenda, events⟩
  | sleep (task : Task Unit) (agenda : List (Task Unit)) (events : List Event) (millis : Nat)
      (hwork : task.work = some ()) :
      Shift scenarios ⟨task :: agenda, events⟩
        ⟨schedule { task with wake := task.wake + millis } agenda, events⟩
  | finish (task : Task Unit) (agenda : List (Task Unit)) (events : List Event)
      (hwork : task.work = some ()) :
      Shift scenarios ⟨task :: agenda, events⟩
        ⟨{ task with iteration := task.iteration + 1, work := none } :: agenda,
          .completed task.crew task.user task.iteration task.since task.wake :: events⟩
  | crash (task : Task Unit) (agenda : List (Task Unit)) (events : List Event)
      (hwork : task.work = some ()) :
      Shift scenarios ⟨task :: agenda, events⟩
        ⟨agenda, .crashed task.crew task.user task.wake :: events⟩
  | stop (task : Task Unit) (agenda : List (Task Unit)) (events : List Event)
      (hwork : task.work = none) (hmay : mayBegin scenarios task = false) :
      Shift scenarios ⟨task :: agenda, events⟩
        ⟨agenda, .stopped task.crew task.user task.wake :: events⟩

/-- An agenda in its order. -/
structure Orderly (agenda : List (Task Unit)) : Prop where
  sorted : agenda.Pairwise fun first second => first.wake ≤ second.wake
  /-- No iteration began later than its task wakes up. -/
  since : ∀ task ∈ agenda, task.work = some () → task.since ≤ task.wake
  nodup : (agenda.map Task.key).Nodup

theorem schedule_perm (task : Task α) (agenda : List (Task α)) :
    (schedule task agenda).Perm (task :: agenda) := by
  induction agenda with
  | nil => exact List.Perm.refl _
  | cons first rest ih =>
      unfold schedule
      by_cases h : first.wake ≤ task.wake
      · rw [if_pos h]
        exact (ih.cons first).trans (List.Perm.swap task first rest)
      · rw [if_neg h]

theorem sorted_schedule (task : Task α) (agenda : List (Task α))
    (hsorted : agenda.Pairwise fun first second => first.wake ≤ second.wake) :
    (schedule task agenda).Pairwise fun first second => first.wake ≤ second.wake := by
  induction agenda with
  | nil => exact List.pairwise_singleton _ _
  | cons first rest ih =>
      rcases List.pairwise_cons.mp hsorted with ⟨hfirst, hrest⟩
      unfold schedule
      by_cases h : first.wake ≤ task.wake
      · rw [if_pos h]
        refine List.pairwise_cons.mpr ⟨fun other hother => ?_, ih hrest⟩
        rcases List.mem_cons.mp ((schedule_perm task rest).mem_iff.mp hother) with heq | hmem
        · rw [heq]
          exact h
        · exact hfirst other hmem
      · rw [if_neg h]
        refine List.pairwise_cons.mpr ⟨fun other hother => ?_, hsorted⟩
        rcases List.mem_cons.mp hother with heq | hmem
        · rw [heq]
          omega
        · have hle := hfirst other hmem
          omega

theorem map_schedule (task : Task α) (agenda : List (Task α)) :
    (schedule task agenda).map Task.outline
      = schedule task.outline (agenda.map Task.outline) := by
  induction agenda with
  | nil => rfl
  | cons first rest ih =>
      rw [List.map_cons]
      unfold schedule
      by_cases h : first.wake ≤ task.wake
      · rw [if_pos h, if_pos (show first.outline.wake ≤ task.outline.wake from h), List.map_cons,
          ih]
      · rw [if_neg h, if_neg (show ¬ first.outline.wake ≤ task.outline.wake from h),
          List.map_cons, List.map_cons]

section Shifts

variable (scenarios : List Scenario)

/-- What a move of an iteration under way does to the schedule. -/
theorem shift_settle (task : Task α) (agenda : List (Task α)) (events : List Event)
    (result : Move α × σ) :
    Shift scenarios ⟨{ task.outline with work := some () } :: agenda.map Task.outline, events⟩
      (settle task agenda events result).outline := by
  rcases result with ⟨move, world⟩
  cases move with
  | sleep millis work =>
      have hagenda := map_schedule
        { task with wake := task.wake + Sleep.length millis, work := some work } agenda
      unfold State.outline settle
      simp only
      rw [hagenda]
      exact Shift.sleep { task.outline with work := some () } _ events (Sleep.length millis) rfl
  | finish => exact Shift.finish { task.outline with work := some () } _ events rfl
  | crash => exact Shift.crash { task.outline with work := some () } _ events rfl

/-- A turn is one shift of the schedule or two. -/
theorem shifts_turn (w : Workload σ α) (task : Task α) (agenda : List (Task α)) (world : σ)
    (events : List Event) :
    Relation.ReflTransGen (Shift scenarios) ⟨(task :: agenda).map Task.outline, events⟩
      (turn w scenarios task agenda world events).outline := by
  rw [List.map_cons]
  unfold turn
  cases hwork : task.work with
  | some work =>
      have hbusy : task.outline = { task.outline with work := some () } := by
        unfold Task.outline
        rw [hwork]
        rfl
      rw [hbusy]
      exact .single (shift_settle scenarios task agenda events _)
  | none =>
      have hfree : task.outline.work = none := by
        unfold Task.outline
        rw [hwork]
        rfl
      have hsame : mayBegin scenarios task.outline = mayBegin scenarios task := rfl
      by_cases hmay : mayBegin scenarios task = true
      · simp only [hmay, if_true]
        have hbegin := Shift.begin task.outline (agenda.map Task.outline) events hfree
          (hsame.trans hmay)
        exact (Relation.ReflTransGen.single hbegin).tail
          (shift_settle scenarios { task with since := task.wake } agenda events _)
      · simp only [hmay, Bool.false_eq_true, if_false]
        rw [Bool.not_eq_true] at hmay
        exact .single (Shift.stop task.outline _ events hfree (hsame.trans hmay))

/-- So are any number of turns. -/
theorem shifts_turns (w : Workload σ α) (more : Nat) (s : State σ α) :
    Relation.ReflTransGen (Shift scenarios) s.outline (turns w scenarios more s).outline := by
  induction more generalizing s with
  | zero => exact .refl
  | succ more ih =>
      unfold turns
      cases hagenda : s.agenda with
      | nil => exact .refl
      | cons task agenda =>
          have hturn := shifts_turn scenarios w task agenda s.world s.events
          rw [← hagenda] at hturn
          exact hturn.trans (ih _)

end Shifts

/-- What comes in the place of the first task: the same user at a later time, or nothing. -/
structure Replaced (task : Task Unit) (agenda agenda' : List (Task Unit))
    (next : Option (Task Unit)) : Prop where
  perm : agenda'.Perm (next.toList ++ agenda)
  sorted : agenda'.Pairwise fun first second => first.wake ≤ second.wake
  key : ∀ task', next = some task' → task'.key = task.key
  wake : ∀ task', next = some task' → task.wake ≤ task'.wake
  since : ∀ task', next = some task' → task'.work = some () → task'.since ≤ task'.wake

section Replacements

variable {task : Task Unit} {agenda agenda' : List (Task Unit)} {next : Option (Task Unit)}

theorem replaced_none (h : Orderly (task :: agenda)) : Replaced task agenda agenda none := by
  refine ⟨List.Perm.refl _, (List.pairwise_cons.mp h.sorted).2, ?_, ?_, ?_⟩
  all_goals exact fun _ hnone => absurd hnone.symm (Option.some_ne_none _)

/-- The user goes on at once. -/
theorem replaced_head (h : Orderly (task :: agenda)) (task' : Task Unit)
    (hkey : task'.key = task.key) (hwake : task'.wake = task.wake)
    (hsince : task'.work = some () → task'.since ≤ task'.wake) :
    Replaced task agenda (task' :: agenda) (some task') := by
  rcases List.pairwise_cons.mp h.sorted with ⟨hfirst, hrest⟩
  refine ⟨List.Perm.refl _, List.pairwise_cons.mpr ⟨fun other hother => ?_, hrest⟩, ?_, ?_, ?_⟩
  · rw [hwake]
    exact hfirst other hother
  · rintro _ ⟨⟩
    exact hkey
  · rintro _ ⟨⟩
    omega
  · rintro _ ⟨⟩
    exact hsince

/-- The user goes on later. -/
theorem replaced_schedule (h : Orderly (task :: agenda)) (task' : Task Unit)
    (hkey : task'.key = task.key) (hwake : task.wake ≤ task'.wake)
    (hsince : task'.work = some () → task'.since ≤ task'.wake) :
    Replaced task agenda (schedule task' agenda) (some task') := by
  refine ⟨schedule_perm task' agenda,
    sorted_schedule task' agenda (List.pairwise_cons.mp h.sorted).2, ?_, ?_, ?_⟩
  · rintro _ ⟨⟩
    exact hkey
  · rintro _ ⟨⟩
    exact hwake
  · rintro _ ⟨⟩
    exact hsince

/-- A replacement keeps the agenda in its order, and nobody wakes up in the past. -/
theorem orderly_replaced (h : Orderly (task :: agenda))
    (hreplaced : Replaced task agenda agenda' next) :
    Orderly agenda' ∧ ∀ other ∈ agenda', task.wake ≤ other.wake := by
  rcases List.pairwise_cons.mp h.sorted with ⟨hfirst, -⟩
  have hnodup := h.nodup
  rw [List.map_cons] at hnodup
  refine ⟨⟨hreplaced.sorted, fun other hother => ?_, ?_⟩, fun other hother => ?_⟩
  · rcases List.mem_append.mp (hreplaced.perm.mem_iff.mp hother) with hmem | hmem
    · exact hreplaced.since other (Option.mem_toList.mp hmem)
    · exact h.since other (List.mem_cons_of_mem _ hmem)
  · rw [(hreplaced.perm.map Task.key).nodup_iff, List.map_append]
    cases hnext : next with
    | none => exact (List.nodup_cons.mp hnodup).2
    | some task' =>
        rw [Option.toList_some, List.map_singleton, hreplaced.key task' hnext,
          List.singleton_append]
        exact hnodup
  · rcases List.mem_append.mp (hreplaced.perm.mem_iff.mp hother) with hmem | hmem
    · exact hreplaced.wake other (Option.mem_toList.mp hmem)
    · exact hfirst other hmem

end Replacements

section Start

theorem mem_crew {index : Nat} {s : Scenario} {task : Task α} (htask : task ∈ crew index s) :
    task.crew = index ∧ task.user ∈ List.range' 1 s.vus.val ∧ task.wake = 0 ∧
      task.iteration = 0 ∧ task.work = none := by
  rcases List.mem_map.mp htask with ⟨user, huser, rfl⟩
  exact ⟨rfl, huser, rfl, rfl, rfl⟩

/-- The tasks at the start are the users of the scenarios. -/
theorem mem_crews {scenarios : List Scenario} {index : Nat} {task : Task α}
    (htask : task ∈ crews index scenarios) :
    index ≤ task.crew ∧ ∃ s, scenarios[task.crew - index]? = some s ∧
      task ∈ crew task.crew s := by
  induction scenarios generalizing index with
  | nil => exact absurd htask List.not_mem_nil
  | cons s rest ih =>
      unfold crews at htask
      rcases List.mem_append.mp htask with h | h
      · have hcrew := (mem_crew h).1
        refine ⟨by omega, s, ?_, by rw [hcrew]; exact h⟩
        rw [hcrew, Nat.sub_self]
        rfl
      · rcases ih h with ⟨hle, other, hother, hmem⟩
        refine ⟨by omega, other, ?_, hmem⟩
        have hindex : task.crew - index = task.crew - (index + 1) + 1 := by omega
        rw [hindex, List.getElem?_cons_succ]
        exact hother

/-- Every user of a scenario has a task at the start. -/
theorem exists_crews {scenarios : List Scenario} {index place : Nat} {s : Scenario}
    (hs : scenarios[place]? = some s) (task : Task α) (htask : task ∈ crew (index + place) s) :
    task ∈ crews index scenarios := by
  induction scenarios generalizing index place with
  | nil => exact absurd hs (by simp only [List.getElem?_nil, reduceCtorEq, not_false_eq_true])
  | cons first rest ih =>
      unfold crews
      rcases place with _ | place
      · rw [List.getElem?_cons_zero, Option.some.injEq] at hs
        rw [hs]
        exact List.mem_append_left _ htask
      · rw [List.getElem?_cons_succ] at hs
        refine List.mem_append_right _ (ih hs ?_)
        have hindex : index + 1 + place = index + (place + 1) := by omega
        rw [hindex]
        exact htask

theorem nodup_crews (scenarios : List Scenario) (index : Nat) :
    ((crews (α := α) index scenarios).map Task.key).Nodup := by
  induction scenarios generalizing index with
  | nil => exact List.nodup_nil
  | cons s rest ih =>
      unfold crews
      rw [List.map_append]
      refine List.nodup_append.mpr ⟨?_, ih (index + 1), ?_⟩
      · unfold crew
        rw [List.map_map]
        have hrange : (List.range' 1 s.vus.val).Nodup := List.nodup_range'
        exact List.pairwise_map.mpr (hrange.imp fun hne heq => hne (Prod.mk.inj heq).2)
      · -- Users of different scenarios have different crews.
        intro first hfirst second hsecond heq
        rcases List.mem_map.mp hfirst with ⟨task, htask, rfl⟩
        rcases List.mem_map.mp hsecond with ⟨other, hother, rfl⟩
        have hcrew := (mem_crew htask).1
        have hle := (mem_crews hother).1
        have hsame : task.crew = other.crew := (Prod.mk.inj heq).1
        omega

/-- At the start all tasks are due. -/
theorem orderly_crews (scenarios : List Scenario) :
    Orderly ((crews (α := α) 0 scenarios).map Task.outline) := by
  refine ⟨List.pairwise_map.mpr ?_, fun task htask hwork => ?_, ?_⟩
  · refine List.pairwise_of_forall_mem_list fun first hfirst second hsecond => ?_
    rcases (mem_crews hfirst).2 with ⟨s, -, hcrew⟩
    have hwake : first.outline.wake = 0 := (mem_crew hcrew).2.2.1
    omega
  · rcases List.mem_map.mp htask with ⟨task, hmem, rfl⟩
    rcases (mem_crews hmem).2 with ⟨s, -, hcrew⟩
    unfold Task.outline at hwork
    rw [(mem_crew hcrew).2.2.2.2] at hwork
    exact absurd hwork (by simp only [Option.map_none, reduceCtorEq, not_false_eq_true])
  · rw [List.map_map]
    exact nodup_crews scenarios 0

end Start

end Executor

end PageSweep
