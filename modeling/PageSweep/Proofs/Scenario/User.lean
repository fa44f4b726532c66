import Mathlib.Algebra.BigOperators.Group.Finset.Basic
import PageSweep.Proofs.Interleaving

/-!
# A User on a Clock

A user of a scenario goes round: it looks at the clock, begins an iteration if the
deadline is not reached, lets the iteration run to its end, and counts it. How long each
of its iterations takes and whether it crashes is laid down beforehand, and any more
time may pass before a step. On an exact clock none does: every step is taken when it
is due.

What a user has done is told by where it is. Behind it lie whole rounds, each with its
beginning, its end and its count. What comes after them is the part of a round that is
under way, or the step with which the user was gone: it stopped because it found the
deadline reached, or its iteration crashed. Nothing else can stand there, so no
iteration is cut short or counted twice, and none is left out.

## Main definitions

* `Iteration`: What an iteration does.
* `User`, `Act`, `Step`: A user between two steps, what it does, and its steps.
* `Round`: A complete iteration that was counted.
* `Record`: What a user has done.
* `User.used`: The iterations whose ends a user has seen.
* `offset`: When an iteration begins on an exact clock.

## Theorems

* `times_of_steps`: A user never goes back in time.
* `step_congr`: Iterations that are not used yet do not matter.
* `record_step`: A step leads from record to record.
* `record_steps`: Every user has a record.
* `tail_of_isGone`: What comes after the rounds of a user that is gone.
* `begin_of_record`, `finish_of_record`, `count_of_record`, `ending_of_record`: The steps of
  a record.
* `counts_of_record`: The complete iterations and the count of a user that is gone.
* `iteration_of_record`: Its iterations one by one.
* `reason_of_record`: Why it is gone.
-/

namespace PageSweep

namespace Crew

open Interleaving

/-- What an iteration does: it takes so many nanoseconds, and then it is complete or it
crashes. -/
structure Iteration where
  length : Nat
  crashes : Bool

/-- What a user is at. -/
inductive Stage where
  /-- It is about to look at the clock. -/
  | between
  /-- An iteration is under way. -/
  | busy
  /-- The iteration is complete but not counted yet. -/
  | complete
  /-- It found the deadline reached. -/
  | stopped
  /-- Its iteration crashed. -/
  | crashed
  deriving DecidableEq

/-- A user between two steps. -/
structure User where
  stage : Stage
  /-- When it took its last step. -/
  since : Nat
  /-- How many iterations it has completed. -/
  completed : Nat

/-- A user before its first step. -/
def User.fresh (start : Nat) : User := ⟨.between, start, 0⟩

/-- Whether a user takes no more steps. -/
def User.IsGone (u : User) : Prop :=
  u.stage = .stopped ∨ u.stage = .crashed

/-- How many iterations have shown what they do. -/
def User.used (u : User) : Nat :=
  if u.stage = .crashed then u.completed + 1 else u.completed

/-- What a user does in a step. -/
inductive Deed where
  | begin (iteration : Nat)
  /-- The iteration that began at the given time is complete. -/
  | finish (iteration begun : Nat)
  | count (iteration : Nat)
  | stop
  | crash
  deriving DecidableEq

/-- A step that was taken at a time. -/
structure Act where
  deed : Deed
  time : Nat
  deriving DecidableEq

/-- Whether a step completes an iteration. -/
def Act.finishes (act : Act) : Bool :=
  match act.deed with
  | .finish _ _ => true
  | _ => false

/-- Whether a step counts an iteration. -/
def Act.counts (act : Act) : Bool :=
  match act.deed with
  | .count _ => true
  | _ => false

/-- Whether a step begins, completes or counts the given iteration. -/
def Act.isOf (iteration : Nat) (act : Act) : Bool :=
  match act.deed with
  | .begin k | .finish k _ | .count k => k = iteration
  | .stop | .crash => false

/-- A step may be taken once it is due, and on an exact clock it is taken then. -/
structure OnTime (exact : Prop) (due time : Nat) : Prop where
  le : due ≤ time
  eq : exact → time = due

section Users

variable (exact : Prop) (start deadline : Nat) (plan : Nat → Iteration)

/-- The steps of a user. No other user comes into them. -/
inductive Step : User → Act → User → Prop where
  /-- The deadline is not reached when the user looks at the clock. -/
  | begin (since completed time : Nat) (htime : OnTime exact since time)
      (hlt : time < deadline) :
      Step ⟨.between, since, completed⟩ ⟨.begin completed, time⟩ ⟨.busy, time, completed⟩
  /-- Nothing but its length says when an iteration ends. -/
  | finish (since completed time : Nat)
      (htime : OnTime exact (since + (plan completed).length) time)
      (hplan : (plan completed).crashes = false) :
      Step ⟨.busy, since, completed⟩ ⟨.finish completed since, time⟩
        ⟨.complete, time, completed + 1⟩
  | count (since completed time : Nat) (htime : OnTime exact since time) :
      Step ⟨.complete, since, completed + 1⟩ ⟨.count completed, time⟩
        ⟨.between, time, completed + 1⟩
  | stop (since completed time : Nat) (htime : OnTime exact since time)
      (hle : deadline ≤ time) :
      Step ⟨.between, since, completed⟩ ⟨.stop, time⟩ ⟨.stopped, time, completed⟩
  | crash (since completed time : Nat)
      (htime : OnTime exact (since + (plan completed).length) time)
      (hplan : (plan completed).crashes = true) :
      Step ⟨.busy, since, completed⟩ ⟨.crash, time⟩ ⟨.crashed, time, completed⟩

/-- A complete iteration that was counted. -/
structure Round where
  iteration : Nat
  begun : Nat
  ended : Nat
  counted : Nat

/-- The steps of a round. -/
def Round.acts (r : Round) : List Act :=
  [⟨.begin r.iteration, r.begun⟩, ⟨.finish r.iteration r.begun, r.ended⟩,
    ⟨.count r.iteration, r.counted⟩]

/-- The steps of rounds. -/
def actsOf (rounds : List Round) : List Act :=
  rounds.flatMap Round.acts

/-- When iteration `k` begins on an exact clock, counted from the start. -/
def offset (k : Nat) : Nat :=
  ∑ j ∈ Finset.range k, (plan j).length

/-- Round `k` keeps to the deadline and the plan. It may end after the deadline. -/
structure Sound (k : Nat) (r : Round) : Prop where
  iteration : r.iteration = k
  begun : r.begun < deadline
  completes : (plan k).crashes = false
  ended : OnTime exact (r.begun + (plan k).length) r.ended
  counted : OnTime exact r.ended r.counted
  begunAt : exact → r.begun = start + offset plan k

/-- Rounds one after another, the first one with iteration zero. -/
def Rounds (rounds : List Round) : Prop :=
  ∀ k r, rounds[k]? = some r → Sound exact start deadline plan k r

/-- What a user has done after `k` rounds, by where it is. -/
inductive Tail (k : Nat) : User → List Act → Prop where
  /-- Nothing came after the rounds. -/
  | between (since : Nat) (hoffset : exact → since = start + offset plan k) :
      Tail k ⟨.between, since, k⟩ []
  /-- Another iteration began before the deadline. -/
  | busy (begun : Nat) (hbegun : begun < deadline)
      (hoffset : exact → begun = start + offset plan k) :
      Tail k ⟨.busy, begun, k⟩ [⟨.begin k, begun⟩]
  /-- Another iteration began before the deadline and ran to its end. -/
  | complete (begun ended : Nat) (hbegun : begun < deadline)
      (hoffset : exact → begun = start + offset plan k) (hplan : (plan k).crashes = false)
      (hended : OnTime exact (begun + (plan k).length) ended) :
      Tail k ⟨.complete, ended, k + 1⟩ [⟨.begin k, begun⟩, ⟨.finish k begun, ended⟩]
  /-- The deadline was reached. -/
  | stopped (time : Nat) (hle : deadline ≤ time)
      (hoffset : exact → time = start + offset plan k) :
      Tail k ⟨.stopped, time, k⟩ [⟨.stop, time⟩]
  /-- Another iteration began before the deadline and crashed. -/
  | crashed (begun time : Nat) (hbegun : begun < deadline)
      (hoffset : exact → begun = start + offset plan k) (hplan : (plan k).crashes = true)
      (htime : OnTime exact (begun + (plan k).length) time) :
      Tail k ⟨.crashed, time, k⟩ [⟨.begin k, begun⟩, ⟨.crash, time⟩]

/-- What a user has done: its rounds, and what came after them. -/
structure Record (rounds : List Round) (tail : List Act) (u : User) (acts : List Act) :
    Prop where
  acts_eq : acts = actsOf rounds ++ tail
  sound : Rounds exact start deadline plan rounds
  after : Tail exact start deadline plan rounds.length u tail

end Users

section Steps

variable {exact : Prop} {start deadline : Nat} {plan : Nat → Iteration}
variable {u t : User} {acts : List Act} {act : Act}

/-- A user takes its steps one after another. -/
theorem since_of_step (hstep : Step exact deadline plan u act t) :
    u.since ≤ act.time ∧ t.since = act.time := by
  cases hstep with
  | begin _ _ _ htime | count _ _ _ htime | stop _ _ _ htime => exact ⟨htime.le, rfl⟩
  | finish _ _ _ htime | crash _ _ _ htime =>
      exact ⟨Nat.le_trans (Nat.le_add_right _ _) htime.le, rfl⟩

/-- The steps of a user stand in the order of their times, and none of them lies before
its start or after its last step. -/
theorem times_of_steps (hsteps : Steps (Step exact deadline plan) (User.fresh start) acts u) :
    (∀ act ∈ acts, start ≤ act.time ∧ act.time ≤ u.since) ∧ start ≤ u.since ∧
      acts.Pairwise fun first second => first.time ≤ second.time := by
  induction hsteps with
  | nil => exact ⟨fun _ h => absurd h List.not_mem_nil, Nat.le_refl _, List.Pairwise.nil⟩
  | snoc acts act t u hsteps hstep ih =>
      rcases ih with ⟨hacts, hstart, hsorted⟩
      rcases since_of_step hstep with ⟨hle, hsince⟩
      refine ⟨fun other hother => ?_, by omega, List.pairwise_append.mpr
        ⟨hsorted, List.pairwise_singleton _ _, fun first hfirst second hsecond => ?_⟩⟩
      · rcases List.mem_append.mp hother with h | h
        · have hold := hacts other h
          omega
        · rw [List.mem_singleton.mp h]
          omega
      · have hold := (hacts first hfirst).2
        rw [List.mem_singleton.mp hsecond]
        omega

theorem not_step_of_isGone (hgone : u.IsGone) : ¬ Step exact deadline plan u act t := by
  intro hstep
  unfold User.IsGone at hgone
  cases hstep <;> simp only [reduceCtorEq, or_self] at hgone

theorem used_le_of_step (hstep : Step exact deadline plan u act t) : u.used ≤ t.used := by
  unfold User.used
  cases hstep <;> simp only [reduceCtorEq, if_false, if_true] <;> omega

/-- What a plan says about iterations whose ends lie ahead does not matter. -/
theorem step_congr (other : Nat → Iteration) (hstep : Step exact deadline plan u act t)
    (heq : ∀ k < t.used, other k = plan k) : Step exact deadline other u act t := by
  cases hstep with
  | begin since completed time htime hlt => exact .begin since completed time htime hlt
  | count since completed time htime => exact .count since completed time htime
  | stop since completed time htime hle => exact .stop since completed time htime hle
  | finish since completed time htime hplan =>
      have hsame := heq completed (Nat.lt_succ_self completed)
      exact .finish since completed time (by rw [hsame]; exact htime) (by rw [hsame]; exact hplan)
  | crash since completed time htime hplan =>
      have hsame := heq completed (Nat.lt_succ_self completed)
      exact .crash since completed time (by rw [hsame]; exact htime) (by rw [hsame]; exact hplan)

end Steps

section Records

variable {exact : Prop} {start deadline : Nat} {plan : Nat → Iteration}
variable {rounds : List Round} {tail : List Act} {u t : User} {acts : List Act} {act : Act}

theorem offset_succ (plan : Nat → Iteration) (k : Nat) :
    offset plan (k + 1) = offset plan k + (plan k).length :=
  Finset.sum_range_succ _ _

theorem actsOf_concat (rounds : List Round) (r : Round) :
    actsOf (rounds ++ [r]) = actsOf rounds ++ r.acts := by
  rw [actsOf, List.flatMap_append, List.flatMap_singleton, ← actsOf]

theorem rounds_concat (hrounds : Rounds exact start deadline plan rounds) (r : Round)
    (hr : Sound exact start deadline plan rounds.length r) :
    Rounds exact start deadline plan (rounds ++ [r]) := by
  intro k r' hk
  by_cases hlt : k < rounds.length
  · rw [List.getElem?_append_left hlt] at hk
    exact hrounds k r' hk
  · have hle : rounds.length ≤ k := by omega
    rw [List.getElem?_append_right hle, List.getElem?_singleton] at hk
    by_cases hzero : k - rounds.length = 0
    · have hk' : k = rounds.length := by omega
      rw [if_pos hzero, Option.some.injEq] at hk
      rw [hk', ← hk]
      exact hr
    · rw [if_neg hzero] at hk
      exact absurd hk (by simp only [reduceCtorEq, not_false_eq_true])

/-- A step leads from record to record. Only the step that counts an iteration makes
another round of what came after the rounds. -/
theorem record_step (h : Record exact start deadline plan rounds tail u acts)
    (hstep : Step exact deadline plan u act t) :
    ∃ rounds' tail', Record exact start deadline plan rounds' tail' t (acts ++ [act]) := by
  rcases h with ⟨rfl, hrounds, htail⟩
  cases hstep with
  | begin since completed time htime hlt =>
      cases htail with
      | between _ hoffset =>
          refine ⟨rounds, [⟨.begin rounds.length, time⟩], List.append_assoc _ _ _, hrounds, ?_⟩
          exact .busy time hlt fun hexact => (htime.eq hexact).trans (hoffset hexact)
  | finish since completed time htime hplan =>
      cases htail with
      | busy _ hbegun hoffset =>
          refine ⟨rounds, [⟨.begin rounds.length, since⟩, ⟨.finish rounds.length since, time⟩],
            List.append_assoc _ _ _, hrounds, ?_⟩
          exact .complete since time hbegun hoffset hplan htime
  | count since completed time htime =>
      cases htail with
      | complete begun _ hbegun hoffset hplan hended =>
          have hround : Sound exact start deadline plan rounds.length
              ⟨rounds.length, begun, since, time⟩ :=
            ⟨rfl, hbegun, hplan, hended, htime, hoffset⟩
          have hlength (r : Round) : (rounds ++ [r]).length = rounds.length + 1 :=
            List.length_append
          refine ⟨rounds ++ [⟨rounds.length, begun, since, time⟩], [], ?_,
            rounds_concat hrounds _ hround, ?_⟩
          · rw [actsOf_concat, List.append_nil]
            exact List.append_assoc _ _ _
          · rw [hlength]
            refine .between time fun hexact => ?_
            rw [offset_succ, htime.eq hexact, hended.eq hexact, hoffset hexact, Nat.add_assoc]
  | stop since completed time htime hle =>
      cases htail with
      | between _ hoffset =>
          refine ⟨rounds, [⟨.stop, time⟩], List.append_assoc _ _ _, hrounds, ?_⟩
          exact .stopped time hle fun hexact => (htime.eq hexact).trans (hoffset hexact)
  | crash since completed time htime hplan =>
      cases htail with
      | busy _ hbegun hoffset =>
          refine ⟨rounds, [⟨.begin rounds.length, since⟩, ⟨.crash, time⟩],
            List.append_assoc _ _ _, hrounds, ?_⟩
          exact .crashed since time hbegun hoffset hplan htime

/-- Every user has a record, whatever steps it has taken. -/
theorem record_steps (hsteps : Steps (Step exact deadline plan) (User.fresh start) acts u) :
    ∃ rounds tail, Record exact start deadline plan rounds tail u acts := by
  induction hsteps with
  | nil =>
      have hnone : Rounds exact start deadline plan [] := by
        intro k r hk
        simp only [List.getElem?_nil, reduceCtorEq] at hk
      exact ⟨[], [], rfl, hnone, .between start fun _ => rfl⟩
  | snoc acts act t u hsteps hstep ih =>
      rcases ih with ⟨rounds, tail, hrecord⟩
      exact record_step hrecord hstep

/-- What comes after the rounds of a user that is gone. -/
theorem tail_of_isGone {k : Nat} (h : Tail exact start deadline plan k u tail)
    (hgone : u.IsGone) :
    (∃ time, u = ⟨.stopped, time, k⟩ ∧ tail = [⟨.stop, time⟩] ∧ deadline ≤ time ∧
      (exact → time = start + offset plan k)) ∨
    ∃ begun time, u = ⟨.crashed, time, k⟩ ∧ tail = [⟨.begin k, begun⟩, ⟨.crash, time⟩] ∧
      begun < deadline ∧ (exact → begun = start + offset plan k) ∧ (plan k).crashes = true ∧
      OnTime exact (begun + (plan k).length) time := by
  unfold User.IsGone at hgone
  cases h with
  | between | busy | complete => simp only [reduceCtorEq, or_self] at hgone
  | stopped time hle hoffset => exact Or.inl ⟨time, rfl, rfl, hle, hoffset⟩
  | crashed begun time hbegun hoffset hplan htime =>
      exact Or.inr ⟨begun, time, rfl, rfl, hbegun, hoffset, hplan, htime⟩

theorem mem_actsOf (hact : act ∈ actsOf rounds) :
    ∃ (k : Nat) (r : Round), rounds[k]? = some r ∧ act ∈ r.acts := by
  rcases List.mem_flatMap.mp hact with ⟨r, hr, hmem⟩
  rcases List.mem_iff_getElem?.mp hr with ⟨k, hk⟩
  exact ⟨k, r, hk, hmem⟩

theorem mem_acts (r : Round) :
    act ∈ r.acts ↔ act = ⟨.begin r.iteration, r.begun⟩ ∨
      act = ⟨.finish r.iteration r.begun, r.ended⟩ ∨ act = ⟨.count r.iteration, r.counted⟩ := by
  simp only [Round.acts, List.mem_cons, List.not_mem_nil, or_false]

/-- No iteration begins at the deadline or later. -/
theorem begin_of_record (h : Record exact start deadline plan rounds tail u acts) (k time : Nat)
    (hact : ⟨.begin k, time⟩ ∈ acts) : time < deadline := by
  rw [h.acts_eq] at hact
  rcases List.mem_append.mp hact with hmem | hmem
  · rcases mem_actsOf hmem with ⟨j, r, hj, hr⟩
    simp only [mem_acts, Act.mk.injEq, Deed.begin.injEq, reduceCtorEq, false_and, or_false] at hr
    rw [hr.2]
    exact (h.sound j r hj).begun
  · cases h.after with
    | between => exact absurd hmem List.not_mem_nil
    | stopped => simp only [List.mem_singleton, Act.mk.injEq, reduceCtorEq, false_and] at hmem
    | busy _ hbegun =>
        simp only [List.mem_singleton, Act.mk.injEq] at hmem
        rw [hmem.2]
        exact hbegun
    | complete _ _ hbegun | crashed _ _ hbegun =>
        simp only [List.mem_cons, List.not_mem_nil, or_false, Act.mk.injEq, reduceCtorEq,
          false_and] at hmem
        rw [hmem.2]
        exact hbegun

/-- What is complete has begun, has taken its time and does not crash. -/
theorem finish_of_record (h : Record exact start deadline plan rounds tail u acts)
    (k begun time : Nat) (hact : ⟨.finish k begun, time⟩ ∈ acts) :
    ⟨.begin k, begun⟩ ∈ acts ∧ (plan k).crashes = false ∧
      OnTime exact (begun + (plan k).length) time := by
  rw [h.acts_eq] at hact ⊢
  rcases List.mem_append.mp hact with hmem | hmem
  · rcases mem_actsOf hmem with ⟨j, r, hj, hr⟩
    have hsound := h.sound j r hj
    have hbegin : ⟨.begin r.iteration, r.begun⟩ ∈ actsOf rounds :=
      List.mem_flatMap.mpr ⟨r, List.mem_of_getElem? hj, List.mem_cons_self⟩
    simp only [mem_acts, Act.mk.injEq, Deed.finish.injEq, reduceCtorEq, false_and, or_false,
      false_or, hsound.iteration] at hr
    rcases hr with ⟨⟨rfl, rfl⟩, rfl⟩
    rw [hsound.iteration] at hbegin
    exact ⟨List.mem_append_left _ hbegin, hsound.completes, hsound.ended⟩
  · cases h.after with
    | between => exact absurd hmem List.not_mem_nil
    | busy | stopped | crashed =>
        simp only [List.mem_cons, List.not_mem_nil, Act.mk.injEq, reduceCtorEq, false_and,
          or_self] at hmem
    | complete first ended _ _ hplan hended =>
        simp only [List.mem_cons, List.not_mem_nil, or_false, Act.mk.injEq, reduceCtorEq,
          false_and, false_or, Deed.finish.injEq] at hmem
        rcases hmem with ⟨⟨rfl, rfl⟩, rfl⟩
        exact ⟨List.mem_append_right _ List.mem_cons_self, hplan, hended⟩

/-- What is counted is complete. -/
theorem count_of_record (h : Record exact start deadline plan rounds tail u acts)
    (k time : Nat) (hact : ⟨.count k, time⟩ ∈ acts) :
    ∃ begun ended, ⟨.finish k begun, ended⟩ ∈ acts ∧ OnTime exact ended time := by
  rw [h.acts_eq] at hact ⊢
  rcases List.mem_append.mp hact with hmem | hmem
  · rcases mem_actsOf hmem with ⟨j, r, hj, hr⟩
    have hfinish : ⟨.finish r.iteration r.begun, r.ended⟩ ∈ actsOf rounds :=
      List.mem_flatMap.mpr ⟨r, List.mem_of_getElem? hj,
        List.mem_cons_of_mem _ List.mem_cons_self⟩
    simp only [mem_acts, Act.mk.injEq, Deed.count.injEq, reduceCtorEq, false_and,
      false_or] at hr
    rw [hr.1, hr.2]
    exact ⟨r.begun, r.ended, List.mem_append_left _ hfinish, (h.sound j r hj).counted⟩
  · -- Only rounds have been counted.
    cases h.after with
    | between => exact absurd hmem List.not_mem_nil
    | busy | complete | stopped | crashed =>
        simp only [List.mem_cons, List.not_mem_nil, Act.mk.injEq, reduceCtorEq, false_and,
          or_self] at hmem

/-- The steps with which a user is gone come last, and they tell why it is gone. -/
theorem ending_of_record (h : Record exact start deadline plan rounds tail u acts)
    (hact : act ∈ acts) :
    (act.deed = .stop → deadline ≤ act.time ∧ u = ⟨.stopped, act.time, rounds.length⟩) ∧
    (act.deed = .crash → (plan rounds.length).crashes = true ∧
      u = ⟨.crashed, act.time, rounds.length⟩) := by
  rw [h.acts_eq] at hact
  rcases List.mem_append.mp hact with hmem | hmem
  · -- No step of a round is such a step.
    rcases mem_actsOf hmem with ⟨j, r, hj, hr⟩
    rcases (mem_acts r).mp hr with rfl | rfl | rfl
    all_goals exact ⟨fun hdeed => Deed.noConfusion hdeed, fun hdeed => Deed.noConfusion hdeed⟩
  · cases h.after with
    | between => exact absurd hmem List.not_mem_nil
    | stopped time hle =>
        rw [List.mem_singleton] at hmem
        subst hmem
        exact ⟨fun _ => ⟨hle, rfl⟩, fun hdeed => Deed.noConfusion hdeed⟩
    | busy begun =>
        rw [List.mem_singleton] at hmem
        subst hmem
        exact ⟨fun hdeed => Deed.noConfusion hdeed, fun hdeed => Deed.noConfusion hdeed⟩
    | complete begun ended =>
        simp only [List.mem_cons, List.not_mem_nil, or_false] at hmem
        rcases hmem with rfl | rfl
        all_goals exact ⟨fun hdeed => Deed.noConfusion hdeed, fun hdeed => Deed.noConfusion hdeed⟩
    | crashed begun time hbegun hoffset hplan =>
        simp only [List.mem_cons, List.not_mem_nil, or_false] at hmem
        rcases hmem with rfl | rfl
        · exact ⟨fun hdeed => Deed.noConfusion hdeed, fun hdeed => Deed.noConfusion hdeed⟩
        · exact ⟨fun hdeed => Deed.noConfusion hdeed, fun _ => ⟨hplan, rfl⟩⟩

theorem countP_actsOf (p : Act → Bool) (hp : ∀ r : Round, r.acts.countP p = 1)
    (rounds : List Round) : (actsOf rounds).countP p = rounds.length := by
  induction rounds with
  | nil => rfl
  | cons r rest ih =>
      unfold actsOf at ih ⊢
      rw [List.flatMap_cons, List.countP_append, hp, ih, List.length_cons, Nat.add_comm]

/-- When a user is gone, each of its complete iterations is counted once. -/
theorem counts_of_record (h : Record exact start deadline plan rounds tail u acts)
    (hgone : u.IsGone) :
    acts.countP Act.finishes = rounds.length ∧ acts.countP Act.counts = rounds.length ∧
      u.completed = rounds.length := by
  have htail : tail.countP Act.finishes = 0 ∧ tail.countP Act.counts = 0 ∧
      u.completed = rounds.length := by
    rcases tail_of_isGone h.after hgone with ⟨time, rfl, rfl, -⟩ | ⟨begun, time, rfl, rfl, -⟩
    · exact ⟨rfl, rfl, rfl⟩
    · exact ⟨rfl, rfl, rfl⟩
  rcases htail with ⟨hfinishes, hcounts, hcompleted⟩
  refine ⟨?_, ?_, hcompleted⟩
  · rw [h.acts_eq, List.countP_append, hfinishes, Nat.add_zero]
    exact countP_actsOf _ (fun _ => rfl) rounds
  · rw [h.acts_eq, List.countP_append, hcounts, Nat.add_zero]
    exact countP_actsOf _ (fun _ => rfl) rounds

theorem filter_isOf_acts (r : Round) (k : Nat) :
    r.acts.filter (Act.isOf k) = if r.iteration = k then r.acts else [] := by
  by_cases h : r.iteration = k
  · simp only [Round.acts, Act.isOf, List.filter_cons, h, decide_true, if_true, List.filter_nil]
  · simp only [Round.acts, Act.isOf, List.filter_cons, h, decide_false, Bool.false_eq_true,
      if_false, List.filter_nil]

/-- The steps of an iteration are those of its round. -/
theorem filter_isOf_actsOf (hrounds : Rounds exact start deadline plan rounds) (k : Nat) :
    (actsOf rounds).filter (Act.isOf k) = (rounds[k]?.map Round.acts).getD [] := by
  have hiteration : ∀ (j : Nat) (r : Round), rounds[j]? = some r → r.iteration = j := fun j r h =>
    (hrounds j r h).iteration
  clear hrounds
  induction rounds using List.reverseRecOn with
  | nil => rfl
  | append_singleton front r ih =>
      have hr : r.iteration = front.length :=
        hiteration front.length r List.getElem?_concat_length
      have hfront := ih fun j other h => by
        have hlt := (List.getElem?_eq_some_iff.mp h).1
        refine hiteration j other ?_
        rw [List.getElem?_append_left hlt]
        exact h
      rw [actsOf_concat, List.filter_append, hfront, filter_isOf_acts, hr]
      by_cases hlt : k < front.length
      · rw [if_neg (by omega), List.append_nil, List.getElem?_append_left hlt]
      · have hnone : front[k]? = none := List.getElem?_eq_none (by omega)
        rw [hnone, List.getElem?_append_right (by omega), List.getElem?_singleton]
        by_cases heq : front.length = k
        · rw [if_pos heq, if_pos (by omega)]
          rfl
        · rw [if_neg heq, if_neg (by omega)]
          rfl

/-- When a user is gone, each iteration that it began and that does not crash has run to its
end and is counted once. -/
theorem iteration_of_record (h : Record exact start deadline plan rounds tail u acts)
    (hgone : u.IsGone) (k begun : Nat) (hbegin : ⟨.begin k, begun⟩ ∈ acts)
    (hplan : (plan k).crashes = false) :
    ∃ ended counted, OnTime exact (begun + (plan k).length) ended ∧ OnTime exact ended counted ∧
      acts.filter (Act.isOf k)
        = [⟨.begin k, begun⟩, ⟨.finish k begun, ended⟩, ⟨.count k, counted⟩] := by
  rw [h.acts_eq] at hbegin ⊢
  rcases List.mem_append.mp hbegin with hmem | hmem
  · rcases mem_actsOf hmem with ⟨j, r, hj, hr⟩
    have hsound := h.sound j r hj
    simp only [mem_acts, Act.mk.injEq, Deed.begin.injEq, reduceCtorEq, false_and, or_false,
      hsound.iteration] at hr
    rcases hr with ⟨rfl, rfl⟩
    -- What comes after the rounds is not about this iteration.
    have htail : tail.filter (Act.isOf k) = [] := by
      have hlt := (List.getElem?_eq_some_iff.mp hj).1
      have hne : rounds.length ≠ k := by omega
      rcases tail_of_isGone h.after hgone with ⟨time, -, rfl, -⟩ | ⟨begun, time, -, rfl, -⟩
      · rfl
      · simp only [Act.isOf, List.filter_cons, hne, decide_false, Bool.false_eq_true, if_false,
          List.filter_nil]
    refine ⟨r.ended, r.counted, hsound.ended, hsound.counted, ?_⟩
    rw [List.filter_append, filter_isOf_actsOf h.sound, hj, htail, List.append_nil]
    simp only [Option.map_some, Option.getD_some, Round.acts, hsound.iteration]
  · -- The one iteration after the rounds has crashed.
    rcases tail_of_isGone h.after hgone
      with ⟨time, -, rfl, -⟩ | ⟨first, time, -, rfl, -, -, hcrash, -⟩
    · simp only [List.mem_singleton, Act.mk.injEq, reduceCtorEq, false_and] at hmem
    · simp only [List.mem_cons, List.not_mem_nil, or_false, Act.mk.injEq, reduceCtorEq,
        false_and, Deed.begin.injEq] at hmem
      rw [hmem.1, hcrash] at hplan
      exact Bool.noConfusion hplan

/-- A user is gone only because it found the deadline reached or because its iteration
crashed. -/
theorem reason_of_record (h : Record exact start deadline plan rounds tail u acts)
    (hgone : u.IsGone) :
    (∃ time, ⟨.stop, time⟩ ∈ acts ∧ deadline ≤ time) ∨
    ∃ begun time, ⟨.begin rounds.length, begun⟩ ∈ acts ∧ ⟨.crash, time⟩ ∈ acts ∧
      (plan rounds.length).crashes = true ∧ begun + (plan rounds.length).length ≤ time := by
  rw [h.acts_eq]
  rcases tail_of_isGone h.after hgone
    with ⟨time, -, rfl, hle, -⟩ | ⟨begun, time, -, rfl, -, -, hplan, htime⟩
  · exact Or.inl ⟨time, List.mem_append_right _ (List.mem_singleton_self _), hle⟩
  · exact Or.inr ⟨begun, time, List.mem_append_right _ List.mem_cons_self,
      List.mem_append_right _ (List.mem_cons_of_mem _ List.mem_cons_self), hplan, htime.le⟩

end Records

end Crew

end PageSweep
