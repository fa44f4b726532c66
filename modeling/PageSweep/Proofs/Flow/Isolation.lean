import PageSweep.Proofs.Flow.Series
import PageSweep.Proofs.Flow.Turns

/-!
# Flows Do Not Disturb Each Other

Calls of flows run beside each other in any number and in any mixture of their steps.
They share the client, the configuration and the registry, but a call keeps its
window and its cursor to itself. So the requests of a call and its result are what
they would be alone, and whatever a shape has in its series was put there by calls of
that shape.

## Main definitions

* `OwnCursors`: Requests of one window, each at a cursor of the call's own replies.
* `Attributed`: An operation that a call of a shape may report.

## Theorems

* `attributed_steps`: A call reports only what is its own.
* `ownCursors_of_behind`: The requests of a call.
* `calls_isolated`: Calls beside each other.
-/

namespace PageSweep

namespace Flow

/-- The requests among acts have one window, the first one has no cursor, and each
later one has the cursor of the reply before it. -/
def OwnCursors (config : Config) (window : Window) (acts : List Act) : Prop :=
  ∀ (k : Nat) (url : Url), (sent acts)[k]? = some url → ∃ cursor : Option String,
    url = (⟨config.limit, window, cursor⟩ : Page.Query).url config.eventsUrl ∧
    url.queryPairs = [("limit", toString config.limit.val), ("time_from", window.start),
      ("time_to", window.stop)] ++ (cursor.map ("cursor", ·)).toList ∧
    (k = 0 → cursor = none) ∧
    ∀ j, k = j + 1 → ∃ reply text, (taken acts)[j]? = some reply ∧
      Page.nextCursor reply.body = some text ∧ cursor = some text

section Requests

variable (config : Config) (shape : Shape) (replies : Nat → Exchange) (window : Window)

theorem ownCursors_of_trail (asked answered : Nat) (acts : List Act)
    (htrail : Trail config shape replies window asked answered acts)
    (hgoes : GoesOn config replies asked) (hsucc : asked ≤ answered + 1) :
    OwnCursors config window acts := by
  intro k url hk
  rw [htrail.sent, List.getElem?_map] at hk
  -- Request `k` of the call is request `k` of the sweep.
  rcases Option.map_eq_some_iff.mp hk with ⟨i, hi, rfl⟩
  rcases List.getElem?_eq_some_iff.mp hi with ⟨hlt, heq⟩
  rw [List.length_range] at hlt
  rw [List.getElem_range] at heq
  subst heq
  refine ⟨Sweep.cursorAt replies k, rfl, Sweep.queryPairs_request config _, ?_, ?_⟩
  · intro hzero
    rw [hzero]
    rfl
  · intro j hj
    subst hj
    -- The sweep went on after reply `j`, so this reply has a cursor.
    rcases Sweep.exists_cursor_of_not_isOver replies _ j (hgoes (j + 1) hlt) with ⟨text, htext⟩
    refine ⟨replies j, text, ?_, htext, htext⟩
    rw [htrail.taken, List.getElem?_map, List.getElem?_range (by omega), Option.map_some]

theorem ownCursors_of_behind (observe : Exchange → List Operation) (acts : List Act)
    (stage : Stage) (h : Behind observe config shape replies acts stage) :
    ∃ window, OwnCursors config window acts := by
  -- Without a request there is nothing to show, whatever the window.
  have hnone : sent acts = [] → ∃ window, OwnCursors config window acts := by
    intro hsent
    refine ⟨⟨"", ""⟩, fun k url hk => ?_⟩
    rw [hsent, List.getElem?_nil] at hk
    exact absurd hk (by simp only [reduceCtorEq, not_false_eq_true])
  cases stage with
  | idle =>
      have hacts : acts = [] := h
      exact hnone (by rw [hacts]; rfl)
  | crashed =>
      rcases h with ⟨now, rfl, -⟩
      exact hnone rfl
  | asking window progress due =>
      rcases h with ⟨n, htrail, -, hgoes, -⟩
      exact ⟨window, ownCursors_of_trail config shape replies window n n acts htrail
        (fun i hi => hgoes i (by omega)) (by omega)⟩
  | waiting window progress =>
      rcases h with ⟨n, htrail, -, hgoes, -⟩
      exact ⟨window, ownCursors_of_trail config shape replies window (n + 1) n acts htrail hgoes
        (Nat.le_refl _)⟩
  | closing result due =>
      rcases h with ⟨window, n, htrail, -, hgoes, -, -⟩
      exact ⟨window, ownCursors_of_trail config shape replies window n n acts htrail hgoes
        (by omega)⟩

end Requests

section Attribution

variable (observe : Exchange → List Operation) (config : Config) (shape : Shape)

/-- What a call of a shape may report: what the client says about a reply, the outcome
of the status check, and the report of the shape. -/
def Attributed (operation : Operation) : Prop :=
  (∃ reply, operation ∈ observe reply ++ [check reply]) ∨
    ∃ result, operation ∈ report shape result

/-- What is still due at a stage. -/
def Stage.due : Stage → List Operation
  | .asking _ _ due => due
  | .closing _ due => due
  | _ => []

theorem due_opened (now : Instant) : (Stage.opened shape now).due = [] := by
  unfold Stage.opened
  cases Window.endingAt? now 0 shape.days with
  | none => rfl
  | some window => rfl

theorem attributed_answered (window : Window) (progress : Sweep.Progress) (reply : Exchange)
    (operation : Operation)
    (h : operation ∈ (Stage.answered observe config shape window progress reply).due) :
    Attributed observe shape operation := by
  by_cases hover : (progress.after reply).isOver config.maxPages.val = true
  · rw [answered_of_isOver observe config shape window progress reply hover] at h
    rcases List.mem_append.mp h with hreply | hreport
    · exact Or.inl ⟨reply, hreply⟩
    · exact Or.inr ⟨_, hreport⟩
  · rw [answered_of_not_isOver observe config shape window progress reply hover] at h
    exact Or.inl ⟨reply, h⟩

/-- A call reports only what is its own. -/
theorem attributed_steps (acts : List Act) (stage : Stage)
    (hsteps : Interleaving.Steps (Step observe config shape) .idle acts stage) :
    ∀ operation ∈ recorded acts ++ stage.due, Attributed observe shape operation := by
  induction hsteps with
  | nil => exact fun operation h => absurd h List.not_mem_nil
  | snoc acts act s t hsteps hstep ih =>
      intro operation h
      rw [recorded_append, List.append_assoc] at h
      rcases List.mem_append.mp h with hbefore | hnow
      · exact ih operation (List.mem_append_left _ hbefore)
      · -- Only a reply makes something new due. What is recorded was due before.
        cases hstep with
        | clock now =>
            rw [due_opened] at hnow
            exact absurd hnow List.not_mem_nil
        | send window progress => exact absurd hnow List.not_mem_nil
        | take window progress reply =>
            exact attributed_answered observe config shape window progress reply operation hnow
        | record window progress first due =>
            exact ih operation (List.mem_append_right _ hnow)
        | recordLast result first due =>
            exact ih operation (List.mem_append_right _ hnow)

/-- What a call of one shape may report leaves the series of all others alone. -/
theorem foreign_of_attributed (hquiet : ∀ reply, Quiet (observe reply)) (other : Shape)
    (hne : shape.name ≠ other.name) (operation : Operation)
    (h : Attributed observe shape operation) :
    operation.sample? other.pageTrend = none ∧ operation.sample? other.totalTrend = none ∧
    operation.increment? other.pageCounter = none := by
  rcases h with ⟨reply, hreply⟩ | ⟨result, hreport⟩
  · rcases List.mem_append.mp hreply with hclient | hcheck
    · -- The client is quiet, the check is no series, and the report of the shape
      -- has the names of the shape.
      have hq := hquiet reply
      exact ⟨List.filterMap_eq_nil_iff.mp (hq.pages other) operation hclient,
        List.filterMap_eq_nil_iff.mp (hq.totals other) operation hclient,
        List.filterMap_eq_nil_iff.mp (hq.counters other) operation hclient⟩
    · rw [List.mem_singleton.mp hcheck]
      exact ⟨rfl, rfl, rfl⟩
  · have hpages := samplesOf_report_page other shape result
    have htotals := samplesOf_report_total other shape result
    have hcounters := incrementsOf_report other shape result
    rw [if_neg hne] at hpages htotals hcounters
    exact ⟨List.filterMap_eq_nil_iff.mp hpages operation hreport,
      List.filterMap_eq_nil_iff.mp htotals operation hreport,
      List.filterMap_eq_nil_iff.mp hcounters operation hreport⟩

end Attribution

/-- Acts that leave a series alone may be dropped from a run. -/
theorem filterMap_reports {ι γ : Type} (reading : Operation → Option γ) (keep : ι → Bool)
    (trace : List (ι × Act))
    (hforeign : ∀ entry ∈ trace, keep entry.1 = false →
      ∀ operation ∈ entry.2.operations, reading operation = none) :
    (Interleaving.reports Act.operations trace).filterMap reading
      = (Interleaving.reports Act.operations
          (trace.filter fun entry => keep entry.1)).filterMap reading := by
  induction trace with
  | nil => rfl
  | cons entry rest ih =>
      have hrest := ih fun other hother => hforeign other (List.mem_cons_of_mem _ hother)
      simp only [Interleaving.reports, List.flatMap_cons, List.filterMap_append] at hrest ⊢
      -- An act that is kept reads alike in both lists.
      cases h : keep entry.1 with
      | true =>
          rw [List.filter_cons_of_pos (by rw [h]), List.flatMap_cons, List.filterMap_append, hrest]
      | false =>
          have hnone : entry.2.operations.filterMap reading = [] :=
            List.filterMap_eq_nil_iff.mpr (hforeign entry List.mem_cons_self h)
          rw [List.filter_cons_of_neg (by rw [h]; exact Bool.false_ne_true), hnone, hrest]
          rfl

section Runs

open Interleaving

variable {ι : Type} [DecidableEq ι] (observe : Exchange → List Operation) (config : Config)
variable (shapes : ι → Shape) (before : List Operation) (trace : List (ι × Act))
variable (world : World ι Stage)

/-- Calls that have not begun yet, on a registry to which something was reported. -/
def callsAtRest (ι : Type) (before : List Operation) : World ι Stage :=
  ⟨fun _ => .idle, Registry.empty.run before⟩

/-- A run of calls. -/
def Calls : Prop :=
  Run (fun i => Step observe config (shapes i)) Act.operations (callsAtRest ι before) trace world

variable {observe config shapes before trace world}

/-- A call takes several steps in a row. -/
theorem calls_append (hrun : Calls observe config shapes before trace world) (i : ι)
    (acts : List Act) (stage : Stage)
    (hsteps : Steps (Step observe config (shapes i)) (world.states i) acts stage) :
    Calls observe config shapes before (trace ++ acts.map fun act => (i, act))
      (world.after i stage (acts.flatMap Act.operations)) :=
  run_append_steps hrun i acts stage hsteps

theorem behind_of_calls (hrun : Calls observe config shapes before trace world) (i : ι)
    (replies : Nat → Exchange) (hreplies : Answers replies (taken (own i trace))) :
    Behind observe config (shapes i) replies (own i trace) (world.states i) :=
  behind_steps observe config (shapes i) replies _ _ (steps_own hrun i) hreplies

/-- What the acts of the others report leaves the series of a shape alone. -/
theorem foreign_of_calls (hrun : Calls observe config shapes before trace world)
    (hquiet : ∀ reply, Quiet (observe reply)) (shape : Shape) (entry : ι × Act)
    (hentry : entry ∈ trace) (hne : (shapes entry.1).name ≠ shape.name) (operation : Operation)
    (hoperation : operation ∈ entry.2.operations) :
    operation.sample? shape.pageTrend = none ∧ operation.sample? shape.totalTrend = none ∧
    operation.increment? shape.pageCounter = none := by
  refine foreign_of_attributed observe (shapes entry.1) hquiet shape hne operation ?_
  refine attributed_steps observe config (shapes entry.1) (own entry.1 trace) _
    (steps_own hrun entry.1) operation (List.mem_append_left _ ?_)
  refine List.mem_flatMap.mpr ⟨entry.2, ?_, hoperation⟩
  exact List.mem_filterMap.mpr ⟨entry, hentry, if_pos rfl⟩

/-- The series of a shape hold what its own calls reported. -/
theorem series_of_calls (hrun : Calls observe config shapes before trace world)
    (hquiet : ∀ reply, Quiet (observe reply)) (shape : Shape) :
    let ofShape := reports Act.operations
      (trace.filter fun entry => (shapes entry.1).name = shape.name)
    let alone := (Registry.empty.run before).run ofShape
    world.registry.samples shape.pageTrend = alone.samples shape.pageTrend ∧
    world.registry.samples shape.totalTrend = alone.samples shape.totalTrend ∧
    world.registry.total shape.pageCounter = alone.total shape.pageCounter := by
  intro ofShape alone
  have hsorted := Registry.sorted_empty_run before
  -- The registry holds what all acts reported, and those of other names may
  -- be dropped from it.
  have hregistry : world.registry = (Registry.empty.run before).run (reports _ trace) :=
    registry_run hrun
  have hforeign : ∀ entry ∈ trace, decide ((shapes entry.1).name = shape.name) = false →
      ∀ operation ∈ entry.2.operations, operation.sample? shape.pageTrend = none ∧
        operation.sample? shape.totalTrend = none ∧
        operation.increment? shape.pageCounter = none :=
    fun entry hentry hne => foreign_of_calls hrun hquiet shape entry hentry (of_decide_eq_false hne)
  rw [hregistry]
  refine ⟨?_, ?_, ?_⟩
  · rw [Registry.samples_run _ hsorted, Registry.samples_run _ hsorted, samplesOf,
      filterMap_reports _ (fun i => decide ((shapes i).name = shape.name)) trace
        fun entry hentry hne operation h => (hforeign entry hentry hne operation h).1]
    rfl
  · rw [Registry.samples_run _ hsorted, Registry.samples_run _ hsorted, samplesOf,
      filterMap_reports _ (fun i => decide ((shapes i).name = shape.name)) trace
        fun entry hentry hne operation h => (hforeign entry hentry hne operation h).2.1]
    rfl
  · rw [Registry.total_run _ hsorted, Registry.total_run _ hsorted, incrementsOf,
      filterMap_reports _ (fun i => decide ((shapes i).name = shape.name)) trace
        fun entry hentry hne operation h => (hforeign entry hentry hne operation h).2.2]
    rfl

end Runs

open Interleaving in
/-- Calls beside each other, in any number and any mixture of their steps. Each does
what it would do alone when it is given its own replies. Its requests have one window
and no cursor but those of its own replies. Its result depends on its own replies
only, also from run to run. And if the client reports nothing to them, the series of a
shape are what they would be if only calls of that name had reported: calls of other
names leave them unchanged. -/
theorem calls_isolated {ι : Type} [DecidableEq ι] (observe : Exchange → List Operation)
    (config : Config) (shapes : ι → Shape) (before : List Operation) (trace : List (ι × Act))
    (world : World ι Stage) (hrun : Calls observe config shapes before trace world) :
    (∀ i, own i trace = [] ∨ ∃ now, (own i trace).head? = some (.clock now) ∧
      ∀ replies, Answers replies (taken (own i trace)) →
        match run (Sweep.answering replies) observe config (shapes i) now 0 with
        | .error _ => own i trace = [.clock now] ∧ world.states i = .crashed
        | .ok alone => AsAlone alone (own i trace) (world.states i)) ∧
    (∀ i, ∃ window, OwnCursors config window (own i trace)) ∧
    (∀ (others : ι → Shape) (earlier : List Operation) (trace' : List (ι × Act))
        (world' : World ι Stage), Calls observe config others earlier trace' world' →
      ∀ i j, taken (own j trace') = taken (own i trace) → ∀ result result',
        world.states i = .closing result [] → world'.states j = .closing result' [] →
          result' = result) ∧
    ((∀ reply, Quiet (observe reply)) → ∀ shape : Shape,
      let ofShape := reports Act.operations
        (trace.filter fun entry => (shapes entry.1).name = shape.name)
      let alone := (Registry.empty.run before).run ofShape
      world.registry.samples shape.pageTrend = alone.samples shape.pageTrend ∧
      world.registry.samples shape.totalTrend = alone.samples shape.totalTrend ∧
      world.registry.total shape.pageCounter = alone.total shape.pageCounter) := by
  refine ⟨fun i => ?_, fun i => ?_, ?_, fun hquiet shape => series_of_calls hrun hquiet shape⟩
  · -- Any stream that goes on from the replies of the call will do to find the
    -- clock; the call alone is then compared for each of them.
    rcases exists_answers (taken (own i trace)) with ⟨some, hsome⟩
    rcases exists_clock observe config (shapes i) some _ _ (behind_of_calls hrun i some hsome)
      with hnil | ⟨now, hhead⟩
    · exact Or.inl hnil
    · refine Or.inr ⟨now, hhead, fun replies hreplies => ?_⟩
      exact asAlone_of_behind observe config (shapes i) replies _ _ now hhead
        (behind_of_calls hrun i replies hreplies)
  · rcases exists_answers (taken (own i trace)) with ⟨replies, hreplies⟩
    exact ownCursors_of_behind config (shapes i) replies observe _ _
      (behind_of_calls hrun i replies hreplies)
  · intro others earlier trace' world' hrun' i j htaken result result' hstate hstate'
    rcases exists_answers (taken (own i trace)) with ⟨replies, hreplies⟩
    -- One stream goes on from the replies of both calls, as they are the same.
    have hfirst := behind_of_calls hrun i replies hreplies
    have hsecond := behind_of_calls hrun' j replies (by rw [htaken]; exact hreplies)
    rw [hstate] at hfirst
    rw [hstate'] at hsecond
    exact result_unique observe config _ _ replies _ _ result' result [] [] hsecond hfirst

/-- The shapes of two calls. -/
def pairShapes (i : Bool) : Shape :=
  if i then lastMonth else lastDay

open Interleaving in
/-- A flow over the last thirty days runs from beginning to end while another one, over
the last day, has only read the clock. -/
theorem calls_isolated_pair :
    ∃ (now : Instant) (replies : Nat → Exchange) (trace : List (Bool × Act))
      (world : World Bool Stage),
      Calls Http.report Sweep.localConfig pairShapes [] trace world ∧
      (∃ alone, run (Sweep.answering replies) Http.report Sweep.localConfig lastMonth now 0
          = .ok alone ∧ AsAlone alone (own true trace) (world.states true)) ∧
      (∃ result, world.states true = .closing result []) ∧
      world.registry.samples lastDay.pageTrend = [] := by
  let now : Instant := ⟨0, by decide⟩
  let replies : Nat → Exchange := fun _ => ⟨some 200, none, .zero⟩
  have hsome : (Window.endingAt? now 0 lastMonth.days).isSome = true := by decide +kernel
  rcases Option.isSome_iff_exists.mp hsome with ⟨window, hwindow⟩
  rcases run_eq_ok Http.report Sweep.localConfig lastMonth replies now window hwindow
    with ⟨n, hgoes, hover, halone⟩
  rcases exists_steps Http.report Sweep.localConfig lastMonth replies now window hwindow
    n hgoes hover with ⟨acts, hhead, htaken, hsteps⟩
  -- The flow over the last day reads the clock, and then waits for the whole
  -- of the other one.
  have hrest : Calls Http.report Sweep.localConfig pairShapes [] [] (callsAtRest Bool []) := Run.nil
  have hclock := calls_append hrest false [.clock now] _ (steps_single (Step.clock now))
  have hrun := calls_append hclock true acts _ hsteps
  have hown : own true (([] ++ [Act.clock now].map fun act => (false, act))
      ++ acts.map fun act => (true, act)) = acts := by
    rw [own_append, own_map_self]
    rfl
  rcases calls_isolated Http.report Sweep.localConfig pairShapes [] _ _ hrun
    with ⟨hcalls, -, -, hseries⟩
  refine ⟨now, replies, _, _, hrun, ⟨_, halone, ?_⟩, ⟨_, after_states_self _ true _ _⟩, ?_⟩
  · rcases hcalls true with hnil | ⟨other, hother, hasAlone⟩
    · rw [hown] at hnil
      rw [hnil] at hhead
      exact absurd hhead (by simp only [List.head?_nil, reduceCtorEq, not_false_eq_true])
    · rw [hown, hhead] at hother
      have hsame : now = other := Act.clock.inj (Option.some.inj hother)
      have hanswers : Answers replies (taken acts) := by
        rw [htaken]
        intro k reply hk
        rw [List.getElem?_map] at hk
        rcases Option.map_eq_some_iff.mp hk with ⟨i, -, hi⟩
        exact hi
      have h := hasAlone replies (by rw [hown]; exact hanswers)
      rw [← hsame] at h
      have hshape : pairShapes true = lastMonth := rfl
      rw [hshape, halone] at h
      exact h
  · -- The other flow has reported nothing yet.
    have hfilter : (([] ++ [Act.clock now].map fun act => (false, act))
        ++ acts.map fun act => (true, act)).filter
          (fun entry => (pairShapes entry.1).name = lastDay.name) = [(false, .clock now)] := by
      have hnone : (acts.map fun act => (true, act)).filter
          (fun entry => (pairShapes entry.1).name = lastDay.name) = [] := by
        refine List.filter_eq_nil_iff.mpr fun entry hentry => ?_
        rcases List.mem_map.mp hentry with ⟨act, -, rfl⟩
        have hname : ¬ (decide (lastMonth.name = lastDay.name) = true) := by decide
        exact hname
      rw [List.filter_append, hnone]
      rfl
    rw [(hseries Http.quiet_report lastDay).1, hfilter]
    rfl

end Flow

end PageSweep
