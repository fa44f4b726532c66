import Mathlib.Algebra.Order.Floor.Div
import Mathlib.GroupTheory.GroupAction.Ring
import PageSweep.Proofs.Scenario.User

/-!
# A User on an Exact Clock

On an exact clock a user takes every step when it is due, so iteration `k` begins when
all earlier ones have taken their time. What the user does until it is gone is then laid
down by its start, its deadline and its plan. It completes its iterations up to the first
one that crashes or does not begin before the deadline. If all iterations take the same
time, none of them crashes and their number is the time divided by that length, rounded
up: at the deadline itself none begins.

## Main definitions

* `exactRound`: The round of an iteration on an exact clock.
* `Completes`: How many iterations a user completes.
* `exactActs`: All steps of a user.

## Theorems

* `completes_unique`: There is only one number of iterations.
* `completes_of_record`, `acts_of_record`: A user that is gone.
* `acts_unique`: The plan alone tells the steps.
* `lt_ceilDiv_iff`, `completes_constant`: Iterations of the same length.
-/

namespace PageSweep

namespace Crew

open Interleaving

section Plans

variable (start deadline : Nat) (plan : Nat → Iteration)

/-- The round of an iteration. -/
def exactRound (k : Nat) : Round :=
  ⟨k, start + offset plan k, start + offset plan (k + 1), start + offset plan (k + 1)⟩

/-- A user completes `k` iterations: those before iteration `k` begin before the deadline
and do not crash, and that one does not. -/
structure Completes (k : Nat) : Prop where
  before : ∀ j < k, start + offset plan j < deadline ∧ (plan j).crashes = false
  last : deadline ≤ start + offset plan k ∨ (plan k).crashes = true

/-- What a user does after its complete iterations. -/
def exactEnding (k : Nat) : List Act :=
  if deadline ≤ start + offset plan k then [⟨.stop, start + offset plan k⟩]
  else [⟨.begin k, start + offset plan k⟩, ⟨.crash, start + offset plan (k + 1)⟩]

/-- All steps of a user that completes `k` iterations. -/
def exactActs (k : Nat) : List Act :=
  actsOf ((List.range k).map (exactRound start plan)) ++ exactEnding start deadline plan k

end Plans

section Exact

variable {exact : Prop} {start deadline : Nat} {plan : Nat → Iteration}
variable {rounds : List Round} {tail : List Act} {u : User} {acts : List Act}

theorem completes_le {j k : Nat} (hj : Completes start deadline plan j)
    (hk : Completes start deadline plan k) : j ≤ k := by
  by_contra hlt
  have hbefore := hj.before k (by omega)
  rcases hk.last with hlast | hlast
  · omega
  · rw [hbefore.2] at hlast
    exact Bool.false_ne_true hlast

/-- A plan does not leave two numbers of complete iterations. -/
theorem completes_unique {j k : Nat} (hj : Completes start deadline plan j)
    (hk : Completes start deadline plan k) : j = k :=
  Nat.le_antisymm (completes_le hj hk) (completes_le hk hj)

theorem sound_exact {k : Nat} {r : Round} (hexact : exact)
    (h : Sound exact start deadline plan k r) : r = exactRound start plan k := by
  have hbegun := h.begunAt hexact
  have hended := h.ended.eq hexact
  have hcounted := h.counted.eq hexact
  have hiteration := h.iteration
  rcases r with ⟨iteration, begun, ended, counted⟩
  simp only at hbegun hended hcounted hiteration
  unfold exactRound
  rw [hcounted, hended, hbegun, hiteration, offset_succ, Nat.add_assoc]

theorem rounds_exact (hexact : exact) (h : Rounds exact start deadline plan rounds) :
    rounds = (List.range rounds.length).map (exactRound start plan) := by
  refine List.ext_getElem? fun k => ?_
  rw [List.getElem?_map]
  by_cases hlt : k < rounds.length
  · rw [List.getElem?_range hlt, List.getElem?_eq_getElem hlt]
    exact congrArg some (sound_exact hexact (h k _ (List.getElem?_eq_getElem hlt)))
  · have hle : rounds.length ≤ k := by omega
    have hrange : (List.range rounds.length).length ≤ k := by
      rw [List.length_range]
      exact hle
    rw [List.getElem?_eq_none hle, List.getElem?_eq_none hrange]
    rfl

/-- A user is gone when it has completed its iterations. -/
theorem completes_of_record (hexact : exact)
    (h : Record exact start deadline plan rounds tail u acts) (hgone : u.IsGone) :
    Completes start deadline plan rounds.length := by
  refine ⟨fun j hlt => ?_, ?_⟩
  · have hsound := h.sound j _ (List.getElem?_eq_getElem hlt)
    have hbegun := hsound.begun
    rw [hsound.begunAt hexact] at hbegun
    exact ⟨hbegun, hsound.completes⟩
  · rcases tail_of_isGone h.after hgone
      with ⟨time, -, -, hle, hoffset⟩ | ⟨begun, time, -, -, -, -, hplan, -⟩
    · rw [hoffset hexact] at hle
      exact Or.inl hle
    · exact Or.inr hplan

theorem tail_exact {k : Nat} (hexact : exact) (h : Tail exact start deadline plan k u tail)
    (hgone : u.IsGone) : tail = exactEnding start deadline plan k := by
  unfold exactEnding
  rcases tail_of_isGone h hgone
    with ⟨time, -, rfl, hle, hoffset⟩ | ⟨begun, time, -, rfl, hbegun, hoffset, -, htime⟩
  · have hwhen := hoffset hexact
    rw [if_pos (by omega), hwhen]
  · have hwhen := hoffset hexact
    rw [if_neg (by omega), htime.eq hexact, hwhen, offset_succ, Nat.add_assoc]

/-- What a user has done when it is gone. -/
theorem acts_of_record (hexact : exact)
    (h : Record exact start deadline plan rounds tail u acts) (hgone : u.IsGone) :
    acts = exactActs start deadline plan rounds.length := by
  unfold exactActs
  rw [h.acts_eq, ← rounds_exact hexact h.sound, ← tail_exact hexact h.after hgone]

/-- What a user does until it is gone depends on nothing but its plan. -/
theorem acts_unique {v : User} {others : List Act} (hexact : exact)
    (hacts : Steps (Step exact deadline plan) (User.fresh start) acts u) (hgone : u.IsGone)
    (hothers : Steps (Step exact deadline plan) (User.fresh start) others v)
    (hgone' : v.IsGone) : acts = others := by
  rcases record_steps hacts with ⟨rounds, tail, hrecord⟩
  rcases record_steps hothers with ⟨rounds', tail', hrecord'⟩
  have hlength := completes_unique (completes_of_record hexact hrecord hgone)
    (completes_of_record hexact hrecord' hgone')
  rw [acts_of_record hexact hrecord hgone, acts_of_record hexact hrecord' hgone', hlength]

theorem offset_constant (length : Nat) (crashes : Bool) (k : Nat) :
    offset (fun _ => ⟨length, crashes⟩) k = k * length := by
  induction k with
  | zero =>
      rw [Nat.zero_mul]
      rfl
  | succ k ih => rw [offset_succ, ih, Nat.succ_mul]

/-- As many iterations of the same length begin as there are whole or partial lengths in
the time. -/
theorem lt_ceilDiv_iff (duration length k : Nat) (hpos : 0 < length) :
    k < duration ⌈/⌉ length ↔ k * length < duration := by
  rw [← Nat.not_le, ceilDiv_le_iff_le_mul hpos, Nat.not_le, Nat.mul_comm]

/-- Iterations of the same length that do not crash. -/
theorem completes_constant (start duration length k : Nat) (hpos : 0 < length)
    (h : Completes start (start + duration) (fun _ => ⟨length, false⟩) k) :
    k = duration ⌈/⌉ length := by
  -- Iteration `k` does not begin, and all earlier ones do.
  have hlast : ¬ k < duration ⌈/⌉ length := by
    rw [lt_ceilDiv_iff duration length k hpos]
    rcases h.last with hle | hcrash
    · rw [offset_constant] at hle
      omega
    · exact absurd hcrash Bool.false_ne_true
  have hbefore : ∀ j < k, j < duration ⌈/⌉ length := by
    intro j hlt
    have hbegun := (h.before j hlt).1
    rw [offset_constant] at hbegun
    rw [lt_ceilDiv_iff duration length j hpos]
    omega
  refine Nat.le_antisymm ?_ (Nat.le_of_not_lt hlast)
  rcases k with _ | k
  · exact Nat.zero_le _
  · exact hbefore k (Nat.lt_succ_self k)

end Exact

end Crew

end PageSweep
