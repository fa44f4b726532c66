import PageSweep.Proofs.Bench.Accounts
import PageSweep.Proofs.Bench.Execution
import PageSweep.Proofs.Scenario.Schedule

/-!
# Bench Runs Are Runs of Users

A bench run gives its users turns in the order in which they wake up. A turn is
several steps of one user in a row: from a reply to the next request, from the last
reply to the end of the iteration, from the beginning of a flow to its first request,
or the one step with which a user stops. So what a bench run does is one of the runs
that its users may have.

The two are tied together between turns. The users on the agenda are those that are
neither stopped nor crashed. Each of them is between two flows or waits for a reply,
the registries are the same, and the events tell which iterations are complete and
which users have stopped.

## Main definitions

* `crewShape`, `userOf`: The shape and the state of a user on the agenda.
* `Follows`: A bench run between two turns, and a run of its users.

## Theorems

* `steps_reply`, `steps_lastReply`, `steps_begin`: The turns of a user.
* `follows_turn`: A turn is a sequence of steps.
* `follows_turns`: So are any number of turns.
-/

namespace PageSweep

namespace Bench

open Interleaving

variable {σ : Type}

/-- The shape that the users of a crew run. -/
def crewShape (i : Nat × Nat) : Flow.Shape :=
  (shapes[i.1]?).getD Flow.lastDay

/-- The user whose turn a task is. -/
def userKey (task : Executor.Task Pending) : Nat × Nat :=
  (task.crew, task.user)

/-- The user of a task between two turns. -/
def userOf (task : Executor.Task Pending) : User :=
  match task.work with
  | none => .between
  | some pending => .flowing (.waiting pending.window pending.progress)

section Steps

variable (observe : Exchange → List Operation) (config : Config) (shape : Flow.Shape)

/-- The steps of a flow are steps of the user that runs it. -/
theorem steps_flow (acts : List Flow.Act) (s t : Flow.Stage)
    (hsteps : Steps (Flow.Step observe config shape) s acts t) :
    Steps (User.Step observe config shape) (.flowing s) (acts.map .flow) (.flowing t) := by
  induction hsteps with
  | nil => exact Steps.nil
  | snoc acts act t u hsteps hstep ih =>
      rw [List.map_append]
      exact Steps.snoc _ _ _ _ ih (User.Step.flow t u act hstep)

theorem operations_flow (acts : List Flow.Act) :
    (acts.map User.Act.flow).flatMap User.Act.operations = acts.flatMap Flow.Act.operations := by
  rw [List.flatMap_map]
  rfl

/-- A turn from a reply to the next request. -/
theorem steps_reply (window : Window) (progress : Sweep.Progress) (reply : Exchange)
    (hover : (progress.after reply).isOver config.maxPages.val = false) :
    Steps (User.Step observe config shape) (.flowing (.waiting window progress))
      ((Flow.pageActs observe config window progress reply).map .flow)
      (.flowing (.waiting window (progress.after reply))) :=
  steps_flow observe config shape _ _ _
    (Flow.steps_page observe config shape window progress reply hover)

/-- The acts of a turn from the last reply to the end of the iteration. -/
def lastTurn (progress : Sweep.Progress) (reply : Exchange) : List User.Act :=
  (Flow.lastActs observe shape progress reply).map .flow
    ++ [.finish ⟨(progress.after reply).totalMs, (progress.after reply).pages⟩]

theorem steps_lastReply (window : Window) (progress : Sweep.Progress) (reply : Exchange)
    (hover : (progress.after reply).isOver config.maxPages.val = true) :
    Steps (User.Step observe config shape) (.flowing (.waiting window progress))
      (lastTurn observe shape progress reply) .between :=
  steps_append (steps_flow observe config shape _ _ _
    (Flow.steps_last observe config shape window progress reply hover))
    (steps_single (User.Step.finish _))

/-- The acts of a turn from the beginning of a flow to its first request. -/
def firstTurn (now : Instant) (window : Window) : List User.Act :=
  .begin :: (Flow.openActs config now window).map .flow

theorem steps_begin (now : Instant) (window : Window)
    (hwindow : Window.endingAt? now 0 shape.days = some window) :
    Steps (User.Step observe config shape) .between (firstTurn config now window)
      (.flowing (.waiting window .start)) :=
  steps_append (steps_single User.Step.begin) (steps_flow observe config shape _ _ _
    (Flow.steps_open observe config shape now window hwindow))

/-- A flow whose window lies outside the calendar crashes. -/
theorem steps_beginCrash (now : Instant) (hwindow : Window.endingAt? now 0 shape.days = none) :
    Steps (User.Step observe config shape) .between [.begin, .flow (.clock now)]
      (.flowing .crashed) :=
  steps_append (steps_single User.Step.begin) (steps_flow observe config shape _ _ _
    (Flow.steps_crash observe config shape now hwindow))

end Steps

/-- Whether an act sends a request. -/
def sends (act : User.Act) : Bool :=
  act.url?.isSome

/-- Whether an act completes an iteration. -/
def completes (act : User.Act) : Bool :=
  act.result?.isSome

section Counts

variable (observe : Exchange → List Operation) (config : Config) (shape : Flow.Shape)
variable (window : Window) (progress : Sweep.Progress) (reply : Exchange)

theorem countP_records (p : User.Act → Bool) (due : List Operation)
    (hp : ∀ operation, p (.flow (.record operation)) = false) :
    ((due.map Flow.Act.record).map User.Act.flow).countP p = 0 := by
  refine List.countP_eq_zero.mpr fun act hact => ?_
  rcases List.mem_map.mp hact with ⟨flowAct, hflow, rfl⟩
  rcases List.mem_map.mp hflow with ⟨operation, -, rfl⟩
  rw [hp]
  exact Bool.false_ne_true

/-- A turn with a reply sends one request and completes nothing. -/
theorem counts_pageActs :
    ((Flow.pageActs observe config window progress reply).map User.Act.flow).countP sends = 1 ∧
    ((Flow.pageActs observe config window progress reply).map User.Act.flow).countP completes
      = 0 := by
  refine ⟨?_, ?_⟩
  · rw [Flow.pageActs, List.map_cons, List.countP_cons, List.map_append, List.countP_append,
      countP_records sends _ fun _ => rfl]
    rfl
  · rw [Flow.pageActs, List.map_cons, List.countP_cons, List.map_append, List.countP_append,
      countP_records completes _ fun _ => rfl]
    rfl

/-- A turn with a last reply sends nothing and completes an iteration. -/
theorem counts_lastTurn :
    (lastTurn observe shape progress reply).countP sends = 0 ∧
    (lastTurn observe shape progress reply).countP completes = 1 := by
  refine ⟨?_, ?_⟩
  · rw [lastTurn, Flow.lastActs, List.map_cons, List.cons_append, List.countP_cons,
      List.countP_append, countP_records sends _ fun _ => rfl]
    rfl
  · rw [lastTurn, Flow.lastActs, List.map_cons, List.cons_append, List.countP_cons,
      List.countP_append, countP_records completes _ fun _ => rfl]
    rfl

end Counts

section Following

variable (client : Client σ) (config : Config) (before : List Operation)
variable (users : Finset (Nat × Nat))

/-- A bench run between two turns, and a run of its users. -/
structure Follows (s : Executor.State (World (σ × Nat)) Pending)
    (trace : List ((Nat × Nat) × User.Act)) (world : Interleaving.World (Nat × Nat) User) :
    Prop where
  run : Runs client.observe config crewShape before trace world
  known : ∀ entry ∈ trace, entry.1 ∈ users
  registry : s.world.registry = world.registry
  counted : s.world.server.2 = requests trace
  /-- The users on the agenda are where their tasks say. -/
  tasks : ∀ task ∈ s.agenda, userKey task ∈ users ∧ world.states (userKey task) = userOf task ∧
    ∀ pending, task.work = some pending → pending.shape = crewShape (userKey task)
  nodup : (s.agenda.map userKey).Nodup
  completed : ∀ crew, s.events.countP (·.completes crew)
    = trace.countP fun entry => completes entry.2 && decide (entry.1.1 = crew)
  stopped : ∀ crew user time, .stopped crew user time ∈ s.events →
    world.states (crew, user) = .stopped

theorem userOf_ne_stopped (task : Executor.Task Pending) : userOf task ≠ .stopped := by
  unfold userOf
  cases task.work with
  | none => exact User.noConfusion
  | some pending => exact User.noConfusion

variable {client config before users}
variable {s : Executor.State (World (σ × Nat)) Pending}
variable {trace : List ((Nat × Nat) × User.Act)} {world : Interleaving.World (Nat × Nat) User}
variable {task : Executor.Task Pending} {agenda : List (Executor.Task Pending)}

/-- No user is on the agenda twice if its task is put back at most once. -/
theorem nodup_agenda (next : Option (Executor.Task Pending))
    (agenda' : List (Executor.Task Pending)) (hnext : agenda'.Perm (next.toList ++ agenda))
    (hkey : ∀ task', next = some task' → userKey task' = userKey task)
    (hnodup : (userKey task :: agenda.map userKey).Nodup) : (agenda'.map userKey).Nodup := by
  rw [(hnext.map userKey).nodup_iff, List.map_append]
  cases next with
  | none => exact (List.nodup_cons.mp hnodup).2
  | some task' =>
      rw [Option.toList_some, List.map_singleton, hkey task' rfl, List.singleton_append]
      exact hnodup

/-- The acts of one user complete iterations of its crew only. -/
theorem countP_completes (acts : List User.Act) (crew : Nat) :
    ((acts.map fun act => (userKey task, act)).countP fun entry =>
        completes entry.2 && decide (entry.1.1 = crew))
      = if task.crew = crew then acts.countP completes else 0 := by
  rw [List.countP_map]
  by_cases h : task.crew = crew
  · simp only [h, if_true, userKey, Function.comp_def, decide_true, Bool.and_true]
  · simp only [h, if_false, userKey, Function.comp_def, decide_false, Bool.and_false,
      List.countP_false]
    rfl

/-- A turn follows the steps of its user, if it leaves the other tasks on the agenda and
changes everything else just as the steps do. -/
theorem follows_steps (hs : Follows client config before users s trace world)
    (hagenda : s.agenda = task :: agenda) (acts : List User.Act) (t : User)
    (hsteps : Steps (User.Step client.observe config (crewShape (userKey task))) (userOf task)
      acts t)
    (s' : Executor.State (World (σ × Nat)) Pending) (next : Option (Executor.Task Pending))
    (hnext : s'.agenda.Perm (next.toList ++ agenda))
    (htask : ∀ task', next = some task' → userKey task' = userKey task ∧ userOf task' = t ∧
      ∀ pending, task'.work = some pending → pending.shape = crewShape (userKey task))
    (hregistry : s'.world.registry
      = s.world.registry.run (acts.flatMap User.Act.operations))
    (hcounted : s'.world.server.2 = s.world.server.2 + acts.countP sends)
    (hcompleted : ∀ crew, s'.events.countP (·.completes crew)
      = s.events.countP (·.completes crew)
        + if task.crew = crew then acts.countP completes else 0)
    (hstopped : ∀ crew user time, .stopped crew user time ∈ s'.events →
      .stopped crew user time ∈ s.events ∨ (crew, user) = userKey task ∧ t = .stopped) :
    Follows client config before users s' (trace ++ acts.map fun act => (userKey task, act))
      (world.after (userKey task) t (acts.flatMap User.Act.operations)) := by
  have hmem : task ∈ s.agenda := by
    rw [hagenda]
    exact List.mem_cons_self
  rcases hs.tasks task hmem with ⟨huser, hstate, -⟩
  have hnodup := hs.nodup
  rw [hagenda, List.map_cons] at hnodup
  refine ⟨?_, fun entry hentry => ?_, ?_, ?_, fun other hother => ?_, ?_, fun crew => ?_,
    fun crew user time hevent => ?_⟩
  · exact run_append_steps hs.run (userKey task) acts t (by rw [hstate]; exact hsteps)
  · rcases List.mem_append.mp hentry with h | h
    · exact hs.known entry h
    · rcases List.mem_map.mp h with ⟨act, -, rfl⟩
      exact huser
  · rw [hregistry, hs.registry]
    rfl
  · rw [hcounted, hs.counted, requests, requests, List.countP_append, List.countP_map]
    rfl
  · rcases List.mem_append.mp (hnext.mem_iff.mp hother) with h | h
    · -- The task of this turn is where its steps led to.
      rcases htask other (Option.mem_toList.mp h) with ⟨hkey, huserOf, hshape⟩
      rw [hkey, after_states_self, huserOf]
      exact ⟨huser, rfl, hshape⟩
    · -- The others are not touched: no user has two tasks.
      have hold := hs.tasks other (by rw [hagenda]; exact List.mem_cons_of_mem _ h)
      have hne : userKey other ≠ userKey task := fun heq =>
        (List.nodup_cons.mp hnodup).1 (heq ▸ List.mem_map_of_mem h)
      rw [after_states_of_ne _ _ _ _ _ hne]
      exact hold
  · exact nodup_agenda next s'.agenda hnext (fun task' h => (htask task' h).1) hnodup
  · rw [hcompleted, hs.completed, List.countP_append, countP_completes]
  · rcases hstopped crew user time hevent with h | ⟨hkey, ht⟩
    · -- The user whose turn it is had not stopped before.
      have hne : (crew, user) ≠ userKey task := by
        intro heq
        have hold := hs.stopped crew user time h
        rw [heq, hstate] at hold
        exact userOf_ne_stopped task hold
      rw [after_states_of_ne _ _ _ _ _ hne]
      exact hs.stopped crew user time h
    · rw [hkey, after_states_self, ht]

section Turns

variable (scenarios : List Scenario) (now : Instant)

/-- Sending a request counts it and leaves the registry alone. -/
theorem exists_send (client : Client σ) (config : Config) (shape : Flow.Shape) (window : Window)
    (progress : Sweep.Progress) (world : World (σ × Nat)) :
    ∃ millis reply server,
      send client.counted config shape window progress world
        = (.sleep millis ⟨shape, window, progress, reply⟩,
          ⟨(server, world.server.2 + 1), world.registry⟩) :=
  ⟨_, _, _, rfl⟩

theorem receive_last (pending : Pending) (world : World (σ × Nat))
    (hover : (pending.progress.after pending.reply).isOver config.maxPages.val = true) :
    receive client.counted config pending world
      = (.finish, ⟨world.server, world.registry.run ((Flow.lastActs client.observe pending.shape
          pending.progress pending.reply).flatMap Flow.Act.operations)⟩) := by
  rw [Flow.operations_lastActs, Registry.run, List.foldl_append]
  simp only [receive, Flow.take_statusCheck, hover, if_true]
  rfl

theorem receive_more (pending : Pending) (world : World (σ × Nat))
    (hover : (pending.progress.after pending.reply).isOver config.maxPages.val = false) :
    receive client.counted config pending world
      = send client.counted config pending.shape pending.window
        (pending.progress.after pending.reply) ⟨world.server, world.registry.run
          ((Flow.pageActs client.observe config pending.window pending.progress
            pending.reply).flatMap Flow.Act.operations)⟩ := by
  rw [Flow.operations_pageActs]
  simp only [receive, Flow.take_statusCheck, hover, Bool.false_eq_true, if_false]
  rfl

/-- A turn that ends with a request follows the steps of its user. -/
theorem follows_send (hs : Follows client config before users s trace world)
    (hagenda : s.agenda = task :: agenda) (acts : List User.Act) (window : Window)
    (progress : Sweep.Progress)
    (hsteps : Steps (User.Step client.observe config (crewShape (userKey task))) (userOf task)
      acts (.flowing (.waiting window progress)))
    (hsends : acts.countP sends = 1) (hcompletes : acts.countP completes = 0) (since : Nat) :
    ∃ trace' world', Follows client config before users
      (Executor.settle { task with since } agenda s.events
        (send client.counted config (crewShape (userKey task)) window progress
          ⟨s.world.server, s.world.registry.run (acts.flatMap User.Act.operations)⟩))
      trace' world' := by
  rcases exists_send client config (crewShape (userKey task)) window progress
    ⟨s.world.server, s.world.registry.run (acts.flatMap User.Act.operations)⟩
    with ⟨millis, reply, server, hsend⟩
  rw [hsend]
  refine ⟨_, _, follows_steps hs hagenda acts _ hsteps _ (some _) (Executor.schedule_perm _ _)
    ?_ ?_ ?_ ?_ fun crew user time hevent => Or.inl hevent⟩
  · intro task' htask'
    rw [← Option.some.inj htask']
    refine ⟨rfl, rfl, fun pending hpending => ?_⟩
    rw [← Option.some.inj hpending]
  · rfl
  · rw [hsends]
    rfl
  · intro crew
    rw [hcompletes, ite_self]
    rfl

/-- A turn with a reply. -/
theorem follows_reply (hs : Follows client config before users s trace world)
    (hagenda : s.agenda = task :: agenda) (pending : Pending) (hwork : task.work = some pending) :
    ∃ trace' world', Follows client config before users
      (Executor.turn (workload client.counted config now) scenarios task agenda s.world s.events)
      trace' world' := by
  have hmem : task ∈ s.agenda := by
    rw [hagenda]
    exact List.mem_cons_self
  have hshape := (hs.tasks task hmem).2.2 pending hwork
  have huser : userOf task = .flowing (.waiting pending.window pending.progress) := by
    rw [userOf, hwork]
  have hturn : Executor.turn (workload client.counted config now) scenarios task agenda s.world
      s.events = Executor.settle task agenda s.events
        (receive client.counted config pending s.world) := by
    rw [Executor.turn, hwork]
    rfl
  cases hover : (pending.progress.after pending.reply).isOver config.maxPages.val with
  | true =>
      have hsteps := steps_lastReply client.observe config pending.shape pending.window
        pending.progress pending.reply hover
      -- No request is left: the user reports and is between two flows again.
      have hcounts := counts_lastTurn client.observe pending.shape pending.progress pending.reply
      rw [hturn, receive_last pending s.world hover]
      refine ⟨_, _, follows_steps hs hagenda _ _ (by rw [huser, ← hshape]; exact hsteps) _
        (some { task with iteration := task.iteration + 1, work := none }) (List.Perm.refl _)
        ?_ ?_ ?_ ?_ ?_⟩
      · intro task' htask'
        rw [← Option.some.inj htask']
        exact ⟨rfl, rfl, fun _ h => absurd h (by simp only [reduceCtorEq, not_false_eq_true])⟩
      · rw [lastTurn, List.flatMap_append, operations_flow]
        exact congrArg _ (List.append_nil _).symm
      · rw [hcounts.1]
        rfl
      · intro crew
        rw [hcounts.2]
        simp only [Executor.settle, List.countP_cons, Executor.Event.completes, decide_eq_true_eq]
      · intro crew user time hevent
        rcases List.mem_cons.mp hevent with h | h
        · exact absurd h (by simp only [reduceCtorEq, not_false_eq_true])
        · exact Or.inl h
  | false =>
      have hsteps := steps_reply client.observe config pending.shape pending.window
        pending.progress pending.reply hover
      -- The sweep goes on: the user records what is due and sends a request.
      have hcounts := counts_pageActs client.observe config pending.window pending.progress
        pending.reply
      have hsend := follows_send hs hagenda _ _ _ (by rw [huser, ← hshape]; exact hsteps)
        hcounts.1 hcounts.2 task.since
      rw [operations_flow, ← hshape] at hsend
      rw [hturn, receive_more pending s.world hover]
      exact hsend

/-- A turn without a reply: the user begins a flow, or it stops. -/
theorem follows_fresh (hs : Follows client config before users s trace world)
    (hagenda : s.agenda = task :: agenda) (hwork : task.work = none)
    (hshape : shapes[task.crew]? = some (crewShape (userKey task))) :
    ∃ trace' world', Follows client config before users
      (Executor.turn (workload client.counted config now) scenarios task agenda s.world s.events)
      trace' world' := by
  have huser : userOf task = .between := by
    rw [userOf, hwork]
  by_cases hmay : Executor.mayBegin scenarios task = true
  · have hturn : Executor.turn (workload client.counted config now) scenarios task agenda s.world
        s.events = Executor.settle { task with since := task.wake } agenda s.events
          (begin client.counted config now task.crew s.world) := by
      rw [Executor.turn, hwork]
      simp only [hmay, if_true]
      rfl
    rw [hturn, begin, hshape]
    cases hwindow : Window.endingAt? now 0 (crewShape (userKey task)).days with
    | none =>
        -- The date has no window, so the user is off the agenda and has not stopped.
        have hsteps := steps_beginCrash client.observe config (crewShape (userKey task)) now hwindow
        simp only [hwindow]
        refine ⟨_, _, follows_steps hs hagenda _ _ (by rw [huser]; exact hsteps) _ none
          (List.Perm.refl _) (fun _ h => absurd h (by simp only [reduceCtorEq, not_false_eq_true]))
          rfl rfl ?_ ?_⟩
        · intro crew
          exact (Nat.add_eq_left.mpr (ite_self _)).symm
        · intro crew user time hevent
          rcases List.mem_cons.mp hevent with h | h
          · exact absurd h (by simp only [reduceCtorEq, not_false_eq_true])
          · exact Or.inl h
    | some window =>
        have hsteps := steps_begin client.observe config (crewShape (userKey task)) now window
          hwindow
        simp only [hwindow]
        exact follows_send hs hagenda (firstTurn config now window) window .start
          (by rw [huser]; exact hsteps) rfl rfl task.wake
  · -- The user may not begin another flow, so it stops.
    have hturn : Executor.turn (workload client.counted config now) scenarios task agenda s.world
        s.events = ⟨agenda, s.world, .stopped task.crew task.user task.wake :: s.events⟩ := by
      rw [Executor.turn, hwork]
      simp only [if_neg hmay]
    rw [hturn]
    refine ⟨_, _, follows_steps hs hagenda [.stop] .stopped
      (by rw [huser]; exact steps_single User.Step.stop) _ none (List.Perm.refl _)
      (fun _ h => absurd h (by simp only [reduceCtorEq, not_false_eq_true])) rfl rfl ?_ ?_⟩
    · intro crew
      exact (Nat.add_eq_left.mpr (ite_self _)).symm
    · intro crew user time hevent
      rcases List.mem_cons.mp hevent with h | h
      · rcases Executor.Event.stopped.inj h with ⟨rfl, rfl, -⟩
        exact Or.inr ⟨rfl, rfl⟩
      · exact Or.inl h

/-- A turn is a sequence of steps of the user whose turn it is. -/
theorem follows_turn (hs : Follows client config before users s trace world)
    (hagenda : s.agenda = task :: agenda)
    (hshape : shapes[task.crew]? = some (crewShape (userKey task))) :
    ∃ trace' world', Follows client config before users
      (Executor.turn (workload client.counted config now) scenarios task agenda s.world s.events)
      trace' world' := by
  cases hwork : task.work with
  | none => exact follows_fresh scenarios now hs hagenda hwork hshape
  | some pending => exact follows_reply scenarios now hs hagenda pending hwork

/-- So are any number of turns. -/
theorem follows_turns (husers : ∀ i ∈ users, shapes[i.1]? = some (crewShape i)) (more : Nat)
    (s : Executor.State (World (σ × Nat)) Pending) (trace : List ((Nat × Nat) × User.Act))
    (world : Interleaving.World (Nat × Nat) User)
    (hs : Follows client config before users s trace world) :
    ∃ trace' world', Follows client config before users
      (Executor.turns (workload client.counted config now) scenarios more s) trace' world' := by
  induction more generalizing s trace world with
  | zero => exact ⟨trace, world, hs⟩
  | succ more ih =>
      rw [Executor.turns]
      cases hagenda : s.agenda with
      | nil => exact ⟨trace, world, hs⟩
      | cons task agenda =>
          have hmem : task ∈ s.agenda := by
            rw [hagenda]
            exact List.mem_cons_self
          have hshape := husers (userKey task) (hs.tasks task hmem).1
          rcases follows_turn scenarios now hs hagenda hshape with ⟨trace', world', hs'⟩
          exact ih _ trace' world' hs'

end Turns

end Following

end Bench

end PageSweep
