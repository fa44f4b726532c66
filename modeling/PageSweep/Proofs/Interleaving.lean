import Mathlib.Algebra.BigOperators.Ring.Finset
import PageSweep.Proofs.Metrics.Registry

/-!
# Interleavings

Any number of processes take steps in any order. They have nothing in common but a
registry, to which a step may report. A run is kept as the list of its acts, each
with the name of the process that took it.

Out of such a run each process can be picked again: its own acts are a run of it
alone, whatever the others did in between. That is all there is to isolation here,
since no step of a process looks at the registry. What is in the registry afterwards
is what all acts reported, in the order of the run, and any number that is added up
over the acts of a run can be added up over the processes instead.

## Main definitions

* `Steps`: A run of one process.
* `World`: Processes and their registry.
* `World.after`: A world after a step.
* `Run`: A run of several processes.
* `own`: The acts of one process.

## Theorems

* `steps_own`: The own acts of a process are a run of it.
* `registry_run`: The registry after a run.
* `run_append_steps`: A process takes several steps in a row.
* `sum_own`: Adding up over the processes.
* `countP_own`, `measure_reports`: Counting acts, and measuring what they report.
-/

namespace PageSweep

namespace Interleaving

variable {ι S A : Type}

/-- The steps of one process, by their acts. -/
inductive Steps (step : S → A → S → Prop) (s : S) : List A → S → Prop where
  | nil : Steps step s [] s
  | snoc (acts : List A) (act : A) (t u : S) (hsteps : Steps step s acts t)
      (hstep : step t act u) : Steps step s (acts ++ [act]) u

/-- Processes and the registry that they share. -/
structure World (ι S : Type) where
  states : ι → S
  registry : Registry

/-- The world after a process has come to another state and reported something. -/
def World.after [DecidableEq ι] (world : World ι S) (i : ι) (t : S)
    (operations : List Operation) : World ι S :=
  ⟨Function.update world.states i t, world.registry.run operations⟩

/-- The acts of one process. -/
def own [DecidableEq ι] (i : ι) (trace : List (ι × A)) : List A :=
  trace.filterMap fun entry => if entry.1 = i then some entry.2 else none

/-- What the acts of a run report. -/
def reports (effect : A → List Operation) (trace : List (ι × A)) : List Operation :=
  trace.flatMap fun entry => effect entry.2

/-- Runs from a world: at each moment some process takes a step, and what it reports
goes to the registry. -/
inductive Run [DecidableEq ι] (step : ι → S → A → S → Prop) (effect : A → List Operation)
    (start : World ι S) : List (ι × A) → World ι S → Prop where
  | nil : Run step effect start [] start
  | snoc (trace : List (ι × A)) (world : World ι S) (i : ι) (act : A) (t : S)
      (hrun : Run step effect start trace world) (hstep : step i (world.states i) act t) :
      Run step effect start (trace ++ [(i, act)]) (world.after i t (effect act))

section Worlds

variable [DecidableEq ι] (world : World ι S)

theorem after_states_self (i : ι) (t : S) (operations : List Operation) :
    (world.after i t operations).states i = t :=
  Function.update_self _ _ _

theorem after_states_of_ne (i j : ι) (t : S) (operations : List Operation) (hne : j ≠ i) :
    (world.after i t operations).states j = world.states j :=
  Function.update_of_ne hne _ _

theorem after_nil (i : ι) : world.after i (world.states i) [] = world := by
  rw [World.after, Function.update_eq_self]
  rfl

theorem after_after (i : ι) (t u : S) (front back : List Operation) :
    (world.after i t front).after i u back = world.after i u (front ++ back) := by
  simp only [World.after, Function.update_idem, Registry.run, List.foldl_append]

end Worlds

theorem reports_append (effect : A → List Operation) (front back : List (ι × A)) :
    reports effect (front ++ back) = reports effect front ++ reports effect back :=
  List.flatMap_append

theorem reports_singleton (effect : A → List Operation) (i : ι) (act : A) :
    reports effect [(i, act)] = effect act :=
  List.flatMap_singleton _ _

section Traces

variable [DecidableEq ι]

theorem own_append (i : ι) (front back : List (ι × A)) :
    own i (front ++ back) = own i front ++ own i back :=
  List.filterMap_append

theorem own_singleton_self (i : ι) (act : A) : own i [(i, act)] = [act] := by
  simp only [own, List.filterMap_cons, if_true, List.filterMap_nil]

theorem own_singleton_of_ne (i j : ι) (act : A) (hne : j ≠ i) : own i [(j, act)] = [] := by
  simp only [own, List.filterMap_cons, if_neg hne, List.filterMap_nil]

theorem own_map_self (i : ι) (acts : List A) : own i (acts.map fun act => (i, act)) = acts := by
  induction acts with
  | nil => rfl
  | cons act rest ih =>
      rw [List.map_cons, ← List.singleton_append, own_append, own_singleton_self, ih]
      rfl

theorem mem_own {i : ι} {act : A} {trace : List (ι × A)} :
    act ∈ own i trace ↔ (i, act) ∈ trace := by
  unfold own
  rw [List.mem_filterMap]
  constructor
  · rintro ⟨⟨j, other⟩, hmem, hsome⟩
    by_cases h : j = i
    · rw [if_pos h, Option.some.injEq] at hsome
      rw [← h, ← hsome]
      exact hmem
    · rw [if_neg h] at hsome
      exact absurd hsome (by simp only [reduceCtorEq, not_false_eq_true])
  · intro hmem
    exact ⟨(i, act), hmem, if_pos rfl⟩

/-- A number that is added up over the acts of a run, added up process by process. -/
theorem sum_own (users : Finset ι) (f : ι → A → Nat) (trace : List (ι × A))
    (husers : ∀ entry ∈ trace, entry.1 ∈ users) :
    (trace.map fun entry => f entry.1 entry.2).sum
      = ∑ i ∈ users, ((own i trace).map (f i)).sum := by
  induction trace with
  | nil => exact (Finset.sum_const_zero).symm
  | cons entry rest ih =>
      rcases entry with ⟨j, act⟩
      have hj : j ∈ users := husers (j, act) List.mem_cons_self
      -- The first act counts for its own process only.
      have hsplit : ∀ i, ((own i ((j, act) :: rest)).map (f i)).sum
          = (if j = i then f i act else 0) + ((own i rest).map (f i)).sum := by
        intro i
        by_cases h : j = i
        · simp only [own, List.filterMap_cons, h, if_true, List.map_cons, List.sum_cons]
        · simp only [own, List.filterMap_cons, h, if_false, Nat.zero_add]
      rw [List.map_cons, List.sum_cons, ih fun entry h => husers entry (List.mem_cons_of_mem _ h),
        Finset.sum_congr rfl fun i _ => hsplit i, Finset.sum_add_distrib,
        Finset.sum_ite_eq users j, if_pos hj]

/-- Acts counted process by process. -/
theorem countP_own (users : Finset ι) (p : ι → A → Bool) (trace : List (ι × A))
    (husers : ∀ entry ∈ trace, entry.1 ∈ users) :
    trace.countP (fun entry => p entry.1 entry.2)
      = ∑ i ∈ users, (own i trace).countP (p i) := by
  have hcount : ∀ (α : Type) (q : α → Bool) (list : List α),
      list.countP q = (list.map fun x => if q x then 1 else 0).sum := by
    intro α q list
    induction list with
    | nil => rfl
    | cons x rest ih => rw [List.countP_cons, List.map_cons, List.sum_cons, ih, Nat.add_comm]
  rw [hcount, sum_own users (fun i act => if p i act then 1 else 0) trace husers]
  exact Finset.sum_congr rfl fun i _ => (hcount A (p i) (own i trace)).symm

/-- A measure of what is reported, process by process. -/
theorem measure_reports (users : Finset ι) (measure : List Operation → Nat)
    (hnil : measure [] = 0)
    (happend : ∀ front back, measure (front ++ back) = measure front + measure back)
    (effect : A → List Operation) (trace : List (ι × A))
    (husers : ∀ entry ∈ trace, entry.1 ∈ users) :
    measure (reports effect trace)
      = ∑ i ∈ users, measure ((own i trace).flatMap effect) := by
  have hsum : ∀ (α : Type) (g : α → List Operation) (list : List α),
      measure (list.flatMap g) = (list.map fun x => measure (g x)).sum := by
    intro α g list
    induction list with
    | nil => exact hnil
    | cons x rest ih => rw [List.flatMap_cons, happend, List.map_cons, List.sum_cons, ih]
  rw [reports, hsum, sum_own users (fun _ act => measure (effect act)) trace husers]
  exact Finset.sum_congr rfl fun i _ => (hsum A effect (own i trace)).symm

end Traces

section Runs

variable [DecidableEq ι] {step : ι → S → A → S → Prop} {effect : A → List Operation}
variable {start world : World ι S} {trace : List (ι × A)}

/-- The own acts of a process are a run of it, whatever the others do. -/
theorem steps_own (hrun : Run step effect start trace world) (i : ι) :
    Steps (step i) (start.states i) (own i trace) (world.states i) := by
  induction hrun with
  | nil => exact Steps.nil
  | snoc trace world j act t hrun hstep ih =>
      rw [own_append]
      -- The step belongs to the process or to another one, and only in the first
      -- case the process notices it.
      by_cases h : j = i
      · rw [h] at hstep ⊢
        rw [own_singleton_self, after_states_self]
        exact Steps.snoc _ _ _ _ ih hstep
      · have hne : i ≠ j := fun hc => h hc.symm
        rw [own_singleton_of_ne i j act h, List.append_nil, after_states_of_ne _ _ _ _ _ hne]
        exact ih

theorem registry_run (hrun : Run step effect start trace world) :
    world.registry = start.registry.run (reports effect trace) := by
  induction hrun with
  | nil => rfl
  | snoc trace world j act t hrun hstep ih =>
      rw [reports_append, reports_singleton, World.after, ih]
      exact List.foldl_append.symm

/-- A process may take several steps in a row. -/
theorem run_append_steps (hrun : Run step effect start trace world) (i : ι) (acts : List A)
    (t : S) (hsteps : Steps (step i) (world.states i) acts t) :
    Run step effect start (trace ++ acts.map fun act => (i, act))
      (world.after i t (acts.flatMap effect)) := by
  -- The steps are added to the run one after another. In between no other
  -- process has its turn, so the changes of the world add up to one.
  induction hsteps with
  | nil =>
      rw [List.flatMap_nil, after_nil, List.map_nil, List.append_nil]
      exact hrun
  | snoc acts act t u hsteps hstep ih =>
      -- The state of the process is the one that its last step led to.
      have hlast := Run.snoc _ _ i act u ih (by rw [after_states_self]; exact hstep)
      rw [after_after] at hlast
      rw [List.map_append, ← List.append_assoc, List.flatMap_append, List.flatMap_singleton]
      exact hlast

/-- The steps of a process go on. -/
theorem steps_append {process : S → A → S → Prop} {s t u : S} {front back : List A}
    (hfront : Steps process s front t) (hback : Steps process t back u) :
    Steps process s (front ++ back) u := by
  induction hback with
  | nil =>
      rw [List.append_nil]
      exact hfront
  | snoc acts act t u hsteps hstep ih =>
      rw [← List.append_assoc]
      exact Steps.snoc _ _ _ _ ih hstep

theorem steps_single {process : S → A → S → Prop} {s t : S} {act : A} (hstep : process s act t) :
    Steps process s [act] t :=
  Steps.snoc [] act s t Steps.nil hstep

theorem eq_of_steps_nil {process : S → A → S → Prop} {s t : S} (hsteps : Steps process s [] t) :
    t = s := by
  generalize hnil : ([] : List A) = acts at hsteps
  cases hsteps with
  | nil => rfl
  | snoc acts act => exact absurd hnil.symm (List.concat_ne_nil _ _)

/-- The last step of a process. -/
theorem steps_of_concat {process : S → A → S → Prop} {s u : S} {acts : List A} {act : A}
    (hsteps : Steps process s (acts ++ [act]) u) :
    ∃ t, Steps process s acts t ∧ process t act u := by
  generalize hall : acts ++ [act] = all at hsteps
  cases hsteps with
  | nil => exact absurd hall (List.concat_ne_nil _ _)
  | snoc front last t _ hfront hstep =>
      rcases List.append_inj' hall rfl with ⟨hsame, hlast⟩
      rw [hsame, List.singleton_inj.mp hlast]
      exact ⟨t, hfront, hstep⟩

end Runs

end Interleaving

end PageSweep
