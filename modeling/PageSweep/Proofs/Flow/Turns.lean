import PageSweep.Proofs.Flow.Calls

/-!
# Turns of a Flow

A user that runs a flow does several steps of it in a row: it takes a reply, records
all that is due and sends the next request, or has no request left. Put together,
such turns are a whole flow, so every flow alone is a run of its steps.

## Main definitions

* `pageActs`, `lastActs`: The acts between a reply and the next request, or the end.

## Theorems

* `steps_open`, `steps_page`, `steps_last`: The turns of a flow.
* `exists_steps`: A flow alone is a run of its steps.
-/

namespace PageSweep

namespace Flow

open Interleaving

section Turns

variable (observe : Exchange → List Operation) (config : Config) (shape : Shape)

/-- All that is due before the next request can be recorded in a row. -/
theorem steps_due (window : Window) (progress : Sweep.Progress) (due : List Operation) :
    Steps (Step observe config shape) (.asking window progress due) (due.map .record)
      (.asking window progress []) := by
  induction due with
  | nil => exact Steps.nil
  | cons operation rest ih =>
      exact steps_append (steps_single (Step.record window progress operation rest)) ih

/-- All that is due at the end can be recorded in a row. -/
theorem steps_dueLast (result : Sweep.Result) (due : List Operation) :
    Steps (Step observe config shape) (.closing result due) (due.map .record)
      (.closing result []) := by
  induction due with
  | nil => exact Steps.nil
  | cons operation rest ih =>
      exact steps_append (steps_single (Step.recordLast result operation rest)) ih

/-- The acts of a call up to its first request. -/
def openActs (now : Instant) (window : Window) : List Act :=
  [.clock now, .send (Sweep.Progress.start.request config window)]

/-- The acts of a call from a reply to the next request. -/
def pageActs (window : Window) (progress : Sweep.Progress) (reply : Exchange) : List Act :=
  .take reply :: ((observe reply ++ [check reply]).map .record
    ++ [.send ((progress.after reply).request config window)])

/-- The acts of a call from its last reply to the end. -/
def lastActs (progress : Sweep.Progress) (reply : Exchange) : List Act :=
  .take reply :: (observe reply ++ [check reply] ++ report shape
    ⟨(progress.after reply).totalMs, (progress.after reply).pages⟩).map .record

theorem steps_open (now : Instant) (window : Window)
    (hwindow : Window.endingAt? now 0 shape.days = some window) :
    Steps (Step observe config shape) .idle (openActs config now window)
      (.waiting window .start) := by
  have hclock : Step observe config shape .idle (.clock now) (.asking window .start []) := by
    have hopened : Stage.opened shape now = .asking window .start [] := by
      rw [Stage.opened, hwindow]
    rw [← hopened]
    exact Step.clock now
  exact steps_append (steps_single hclock) (steps_single (Step.send window .start))

theorem steps_crash (now : Instant) (hwindow : Window.endingAt? now 0 shape.days = none) :
    Steps (Step observe config shape) .idle [.clock now] .crashed := by
  have hopened : Stage.opened shape now = .crashed := by
    rw [Stage.opened, hwindow]
  rw [← hopened]
  exact steps_single (Step.clock now)

theorem steps_page (window : Window) (progress : Sweep.Progress) (reply : Exchange)
    (hover : (progress.after reply).isOver config.maxPages.val = false) :
    Steps (Step observe config shape) (.waiting window progress)
      (pageActs observe config window progress reply)
      (.waiting window (progress.after reply)) := by
  have htake : Step observe config shape (.waiting window progress) (.take reply)
      (.asking window (progress.after reply) (observe reply ++ [check reply])) := by
    rw [← answered_of_not_isOver observe config shape window progress reply
      (Bool.eq_false_iff.mp hover)]
    exact Step.take window progress reply
  exact steps_append (steps_single htake) (steps_append
    (steps_due observe config shape window _ _) (steps_single (Step.send window _)))

theorem steps_last (window : Window) (progress : Sweep.Progress) (reply : Exchange)
    (hover : (progress.after reply).isOver config.maxPages.val = true) :
    Steps (Step observe config shape) (.waiting window progress)
      (lastActs observe shape progress reply)
      (.closing ⟨(progress.after reply).totalMs, (progress.after reply).pages⟩ []) := by
  have htake : Step observe config shape (.waiting window progress) (.take reply)
      (.closing ⟨(progress.after reply).totalMs, (progress.after reply).pages⟩
        (observe reply ++ [check reply] ++ report shape
          ⟨(progress.after reply).totalMs, (progress.after reply).pages⟩)) := by
    rw [← answered_of_isOver observe config shape window progress reply hover]
    exact Step.take window progress reply
  exact steps_append (steps_single htake) (steps_dueLast observe config shape _ _)

/-- Recording reports what is recorded. -/
theorem operations_records (due : List Operation) :
    (due.map Act.record).flatMap Act.operations = due := by
  induction due with
  | nil => rfl
  | cons operation rest ih => rw [List.map_cons, List.flatMap_cons, ih]; rfl

theorem operations_pageActs (window : Window) (progress : Sweep.Progress) (reply : Exchange) :
    (pageActs observe config window progress reply).flatMap Act.operations
      = observe reply ++ [check reply] := by
  rw [pageActs, List.flatMap_cons, List.flatMap_append, operations_records]
  exact List.append_nil _

theorem operations_lastActs (progress : Sweep.Progress) (reply : Exchange) :
    (lastActs observe shape progress reply).flatMap Act.operations
      = observe reply ++ [check reply] ++ report shape
        ⟨(progress.after reply).totalMs, (progress.after reply).pages⟩ := by
  rw [lastActs, List.flatMap_cons, operations_records]
  rfl

theorem taken_records (due : List Operation) : taken (due.map .record) = [] := by
  refine List.filterMap_eq_nil_iff.mpr fun act hact => ?_
  rcases List.mem_map.mp hact with ⟨operation, -, rfl⟩
  rfl

theorem taken_pageActs (window : Window) (progress : Sweep.Progress) (reply : Exchange) :
    taken (pageActs observe config window progress reply) = [reply] := by
  rw [pageActs, ← List.singleton_append, taken_append, taken_append, taken_records]
  rfl

theorem taken_lastActs (progress : Sweep.Progress) (reply : Exchange) :
    taken (lastActs observe shape progress reply) = [reply] := by
  rw [lastActs, ← List.singleton_append, taken_append, taken_records]
  rfl

section Alone

variable (replies : Nat → Exchange) (now : Instant) (window : Window)
variable (hwindow : Window.endingAt? now 0 shape.days = some window)
include hwindow

/-- A call comes to wait for reply `n` if the sweep goes on until then. -/
theorem exists_steps_waiting (n : Nat) (hgoes : GoesOn config replies (n + 1)) :
    ∃ acts, acts.head? = some (.clock now) ∧ taken acts = (List.range n).map replies ∧
      Steps (Step observe config shape) .idle acts
        (.waiting window (Sweep.progressAt replies n)) := by
  induction n with
  | zero => exact ⟨_, rfl, rfl, steps_open observe config shape now window hwindow⟩
  | succ n ih =>
      rcases ih fun i hi => hgoes i (by omega) with ⟨acts, hhead, htaken, hsteps⟩
      have hpage := steps_page observe config shape window (Sweep.progressAt replies n)
        (replies n) (by rw [← Sweep.progressAt_succ]; exact hgoes (n + 1) (by omega))
      rw [← Sweep.progressAt_succ] at hpage
      have hall : taken (acts ++ pageActs observe config window (Sweep.progressAt replies n)
          (replies n)) = (List.range (n + 1)).map replies := by
        rw [taken_append, htaken, taken_pageActs, range_succ_map]
      exact ⟨_, by rw [List.head?_append, hhead]; rfl, hall, steps_append hsteps hpage⟩

/-- A flow alone is a run of its steps: given the replies of a stream up to where the
sweep is over, a call comes to its end. -/
theorem exists_steps (n : Nat) (hgoes : GoesOn config replies n)
    (hover : (Sweep.progressAt replies n).isOver config.maxPages.val = true) :
    ∃ acts, acts.head? = some (.clock now) ∧ taken acts = (List.range n).map replies ∧
      Steps (Step observe config shape) .idle acts
        (.closing ⟨Sweep.totalAt replies n, n⟩ []) := by
  -- A sweep has a page at least, and its last turn ends the call.
  cases n with
  | zero => exact absurd hover (Bool.eq_false_iff.mp (Sweep.isOver_start config))
  | succ n =>
      rcases exists_steps_waiting observe config shape replies now window hwindow n hgoes
        with ⟨acts, hhead, htaken, hsteps⟩
      have hlast := steps_last observe config shape window (Sweep.progressAt replies n)
        (replies n) (by rw [← Sweep.progressAt_succ]; exact hover)
      rw [← Sweep.progressAt_succ] at hlast
      have hall : taken (acts ++ lastActs observe shape (Sweep.progressAt replies n) (replies n))
          = (List.range (n + 1)).map replies := by
        rw [taken_append, htaken, taken_lastActs, range_succ_map]
      exact ⟨_, by rw [List.head?_append, hhead]; rfl, hall, steps_append hsteps hlast⟩

end Alone

end Turns

end Flow

end PageSweep
