import PageSweep.Bench

/-!
# The Execution of a Bench Run

A bench run whose scenarios can be set up is an execution of its workload, on a
registry in which everything has been asked for. Whether it can be set up depends on
the configuration alone.

The number of requests appears nowhere in what a run leaves behind, so a client is
given a server that counts them. Counting changes nothing else: forgetting the count
leads from every state of the counted run to the same state of the plain one.

## Main definitions

* `preparation`: What is asked for before a run.
* `Client.counted`: A client whose server counts the requests.
* `World.forget`: The world without the count.

## Theorems

* `run_eq_ok`: A run that could be set up has been executed.
* `forget_turn`: A turn does the same with and without the count.
* `run_counted`: So does a bench run.
-/

namespace PageSweep

namespace Bench

variable {σ : Type}

/-- What is asked for before a run. -/
def preparation (client : Client σ) : List Operation :=
  client.register ++ shapes.flatMap Flow.register

/-- The scenarios of a bench run. -/
def scenariosOf (config : Config) : List Scenario :=
  [config.scenario Flow.lastDay.name, config.scenario Flow.lastMonth.name]

/-- What a bench run executes once it is set up. -/
def execution (client : Client σ) (config : Config) (now : Instant) (server : σ) :
    List Executor.Event × World σ :=
  Executor.run (workload client config now) (scenariosOf config) (bound config)
    ⟨server, Registry.empty.run (preparation client)⟩

theorem setUp_eq (config : Config) (name : String) :
    (config.scenario name).setUp = .ok (config.scenario name) ∨
      ∃ cause, (config.scenario name).setUp = .error cause := by
  unfold Scenario.setUp
  split
  · exact Or.inr ⟨_, rfl⟩
  · split
    · exact Or.inr ⟨_, rfl⟩
    · exact Or.inl rfl

/-- Both scenarios are set up before anything runs, and setting up looks at neither the
client nor the server. -/
theorem run_eq_setUp (client : Client σ) (config : Config) (now : Instant) (server : σ) :
    run client config now server = (do
      let first ← (config.scenario Flow.lastDay.name).setUp
      let second ← (config.scenario Flow.lastMonth.name).setUp
      return Executor.run (workload client config now) [first, second] (bound config)
        ⟨server, Registry.empty.run (preparation client)⟩) := by
  rw [run, shapes]
  simp only [List.mapM_cons, List.mapM_nil, bind_assoc, pure_bind]
  rfl

/-- Whether a run can be set up depends on its configuration alone. -/
theorem run_setUp (config : Config) :
    (∀ (σ : Type) (client : Client σ) (now : Instant) (server : σ),
      run client config now server = .ok (execution client config now server)) ∨
    ∃ cause, ∀ (σ : Type) (client : Client σ) (now : Instant) (server : σ),
      run client config now server = .error cause := by
  rcases setUp_eq config Flow.lastDay.name with hfirst | ⟨cause, hfirst⟩
  · rcases setUp_eq config Flow.lastMonth.name with hsecond | ⟨cause, hsecond⟩
    · refine Or.inl fun σ client now server => ?_
      rw [run_eq_setUp, hfirst, hsecond]
      rfl
    · refine Or.inr ⟨cause, fun σ client now server => ?_⟩
      rw [run_eq_setUp, hfirst, hsecond]
      rfl
  · refine Or.inr ⟨cause, fun σ client now server => ?_⟩
    rw [run_eq_setUp, hfirst]
    rfl

/-- A run that could be set up has been executed. -/
theorem run_eq_ok (client : Client σ) (config : Config) (now : Instant) (server : σ)
    (outcome : List Executor.Event × World σ)
    (h : run client config now server = .ok outcome) :
    outcome = execution client config now server ∧
    ∀ (σ : Type) (client : Client σ) (now : Instant) (server : σ),
      run client config now server = .ok (execution client config now server) := by
  rcases run_setUp config with hall | ⟨cause, hall⟩
  · rw [hall] at h
    exact ⟨(Except.ok.inj h).symm, hall⟩
  · rw [hall] at h
    exact absurd h (by simp only [reduceCtorEq, not_false_eq_true])

/-- The client with a server that counts the requests. -/
def Client.counted (client : Client σ) : Client (σ × Nat) where
  serve := fun server url =>
    let (reply, next) := client.serve server.1 url
    (reply, next, server.2 + 1)
  observe := client.observe
  register := client.register

/-- The world without the count. -/
def World.forget (world : World (σ × Nat)) : World σ :=
  ⟨world.server.1, world.registry⟩

/-- What a turn of work leads to, without the count. -/
def forgetMove (outcome : Move Pending × World (σ × Nat)) : Move Pending × World σ :=
  (outcome.1, outcome.2.forget)

/-- A state between two turns, without the count. -/
def forgetState (s : Executor.State (World (σ × Nat)) Pending) :
    Executor.State (World σ) Pending :=
  ⟨s.agenda, s.world.forget, s.events⟩

section Forget

variable (client : Client σ) (config : Config) (now : Instant)

theorem forget_send (shape : Flow.Shape) (window : Window) (progress : Sweep.Progress)
    (world : World (σ × Nat)) :
    forgetMove (send client.counted config shape window progress world)
      = send client config shape window progress world.forget :=
  rfl

theorem forget_receive (pending : Pending) (world : World (σ × Nat)) :
    forgetMove (receive client.counted config pending world)
      = receive client config pending world.forget := by
  simp only [receive]
  by_cases hover : (pending.progress.take Flow.statusCheck pending.reply).1.isOver
      config.maxPages.val = true
  · rw [if_pos hover, if_pos hover]
    rfl
  · rw [if_neg hover, if_neg hover]
    rfl

theorem forget_begin (crew : Nat) (world : World (σ × Nat)) :
    forgetMove (begin client.counted config now crew world)
      = begin client config now crew world.forget := by
  unfold begin
  cases shapes[crew]? with
  | none => rfl
  | some shape =>
      simp only
      cases Window.endingAt? now 0 shape.days with
      | none => rfl
      | some window => exact forget_send client config shape window .start world

theorem forget_settle (task : Executor.Task Pending) (agenda : List (Executor.Task Pending))
    (events : List Executor.Event) (outcome : Move Pending × World (σ × Nat)) :
    forgetState (Executor.settle task agenda events outcome)
      = Executor.settle task agenda events (forgetMove outcome) := by
  -- The move says what becomes of the task, and it is the same for both.
  rcases outcome with ⟨_ | _ | _, world⟩
  · rfl
  · rfl
  · rfl

/-- A turn does the same with and without the count. -/
theorem forget_turn (scenarios : List Scenario) (task : Executor.Task Pending)
    (agenda : List (Executor.Task Pending)) (world : World (σ × Nat))
    (events : List Executor.Event) :
    forgetState (Executor.turn (workload client.counted config now) scenarios task agenda world
        events)
      = Executor.turn (workload client config now) scenarios task agenda world.forget events := by
  unfold Executor.turn
  cases task.work with
  | some pending =>
      refine (forget_settle task agenda events _).trans ?_
      exact congrArg _ (forget_receive client config pending world)
  | none =>
      simp only
      -- Whether the user may begin depends on its task alone.
      by_cases hmay : Executor.mayBegin scenarios task = true
      · rw [if_pos hmay, if_pos hmay]
        refine (forget_settle _ agenda events _).trans ?_
        exact congrArg _ (forget_begin client config now task.crew world)
      · rw [if_neg hmay, if_neg hmay]
        rfl

theorem forget_turns (scenarios : List Scenario) (more : Nat)
    (s : Executor.State (World (σ × Nat)) Pending) :
    forgetState (Executor.turns (workload client.counted config now) scenarios more s)
      = Executor.turns (workload client config now) scenarios more (forgetState s) := by
  induction more generalizing s with
  | zero => rfl
  | succ more ih =>
      rcases s with ⟨_ | ⟨task, agenda⟩, world, events⟩
      · rfl
      · refine (ih _).trans ?_
        exact congrArg (Executor.turns (workload client config now) scenarios more)
          (forget_turn client config now scenarios task agenda world events)

theorem forget_execution (server : σ) :
    execution client config now server
      = ((execution client.counted config now (server, 0)).1,
        (execution client.counted config now (server, 0)).2.forget) := by
  have hturns := forget_turns client config now (scenariosOf config) (bound config)
    ⟨Executor.crews 0 (scenariosOf config),
      ⟨(server, 0), Registry.empty.run (preparation client)⟩, []⟩
  exact (congrArg (fun s => (s.events.reverse, s.world)) hturns).symm

/-- A bench run does the same with and without the count. -/
theorem run_counted (server : σ) (events : List Executor.Event) (world : World σ)
    (hrun : run client config now server = .ok (events, world)) :
    ∃ requests, run client.counted config now (server, 0)
      = .ok (events, ⟨(world.server, requests), world.registry⟩) := by
  rcases run_eq_ok client config now server _ hrun with ⟨hplain, hall⟩
  rw [forget_execution] at hplain
  rcases Prod.mk.inj hplain with ⟨rfl, rfl⟩
  exact ⟨_, hall (σ × Nat) client.counted now (server, 0)⟩

end Forget

end Bench

end PageSweep
