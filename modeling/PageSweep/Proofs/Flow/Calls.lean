import PageSweep.Flow
import PageSweep.Proofs.Interleaving
import PageSweep.Proofs.Sweep.Chain

/-!
# Calls of a Flow, Step by Step

A flow that runs beside others is not one move but many: it reads the clock, sends a
request, takes the reply, records one observation after another, and sends the next
request. Between any two of these steps another flow may take its own. The steps are
cut as small as they can be noticed, so a run of several flows can be any mixture of
them.

Told as one move, a flow is `Flow.run` against a server that only serves it. What a
call has behind it at any stage is the beginning of that, for every stream of replies
that goes on from those it took, and at the end it is all of it.

## Main definitions

* `Act`: Something that a call does.
* `Stage`: A call between two steps.
* `Step`: The steps of a call.
* `Behind`: What a call has behind it at a stage.
* `AsAlone`: A call beside others is like a call alone.

## Theorems

* `behind_step`: The invariant is kept by a step.
* `behind_steps`: The invariant of a call.
* `run_eq_ok`: A flow alone.
* `asAlone_of_behind`: A call does what it would do alone.
* `result_unique`: What the result of a call depends on.
-/

namespace PageSweep

namespace Flow

/-- Something that a call does. -/
inductive Act where
  | clock (now : Instant)
  | send (url : Url)
  | take (reply : Exchange)
  | record (operation : Operation)

/-- The request that an act sends. -/
def Act.url? : Act → Option Url
  | .send url => some url
  | _ => none

/-- The reply that an act takes. -/
def Act.reply? : Act → Option Exchange
  | .take reply => some reply
  | _ => none

/-- What an act reports to the registry. -/
def Act.operations : Act → List Operation
  | .record operation => [operation]
  | _ => []

/-- The requests among acts. -/
def sent (acts : List Act) : List Url :=
  acts.filterMap Act.url?

/-- The replies among acts. -/
def taken (acts : List Act) : List Exchange :=
  acts.filterMap Act.reply?

/-- What acts report. -/
def recorded (acts : List Act) : List Operation :=
  acts.flatMap Act.operations

/-- A call between two steps. -/
inductive Stage where
  | idle
  /-- The next request is to be sent, but first something is due to be recorded. -/
  | asking (window : Window) (progress : Sweep.Progress) (due : List Operation)
  | waiting (window : Window) (progress : Sweep.Progress)
  /-- No request is left; something may still be due. -/
  | closing (result : Sweep.Result) (due : List Operation)
  | crashed

/-- A call that has read the clock. -/
def Stage.opened (shape : Shape) (now : Instant) : Stage :=
  match Window.endingAt? now 0 shape.days with
  | none => .crashed
  | some window => .asking window .start []

/-- What the sweep of a flow reports of a reply: the outcome of the status check. -/
def check (reply : Exchange) : Operation :=
  .record statusCheck reply.isOk

theorem take_statusCheck (progress : Sweep.Progress) (reply : Exchange) :
    progress.take statusCheck reply = (progress.after reply, [check reply]) :=
  rfl

section Steps

variable (observe : Exchange → List Operation) (config : Config) (shape : Shape)

/-- A call that has taken a reply. -/
def Stage.answered (window : Window) (progress : Sweep.Progress) (reply : Exchange) : Stage :=
  let (next, reported) := progress.take statusCheck reply
  let due := observe reply ++ reported
  if next.isOver config.maxPages.val then
    .closing ⟨next.totalMs, next.pages⟩ (due ++ report shape ⟨next.totalMs, next.pages⟩)
  else .asking window next due

/-- The last reply: everything is due that is left to report. -/
theorem answered_of_isOver (window : Window) (progress : Sweep.Progress) (reply : Exchange)
    (hover : (progress.after reply).isOver config.maxPages.val = true) :
    Stage.answered observe config shape window progress reply
      = .closing ⟨(progress.after reply).totalMs, (progress.after reply).pages⟩
        (observe reply ++ [check reply] ++ report shape
          ⟨(progress.after reply).totalMs, (progress.after reply).pages⟩) := by
  rw [Stage.answered, take_statusCheck]
  exact if_pos hover

/-- A reply after which the sweep goes on: what it calls for is due. -/
theorem answered_of_not_isOver (window : Window) (progress : Sweep.Progress) (reply : Exchange)
    (hover : ¬ (progress.after reply).isOver config.maxPages.val = true) :
    Stage.answered observe config shape window progress reply
      = .asking window (progress.after reply) (observe reply ++ [check reply]) := by
  rw [Stage.answered, take_statusCheck]
  exact if_neg hover

/-- The steps of a call. -/
inductive Step : Stage → Act → Stage → Prop where
  | clock (now : Instant) : Step .idle (.clock now) (.opened shape now)
  | send (window : Window) (progress : Sweep.Progress) :
      Step (.asking window progress []) (.send (progress.request config window))
        (.waiting window progress)
  | take (window : Window) (progress : Sweep.Progress) (reply : Exchange) :
      Step (.waiting window progress) (.take reply)
        (.answered observe config shape window progress reply)
  | record (window : Window) (progress : Sweep.Progress) (operation : Operation)
      (due : List Operation) :
      Step (.asking window progress (operation :: due)) (.record operation)
        (.asking window progress due)
  | recordLast (result : Sweep.Result) (operation : Operation) (due : List Operation) :
      Step (.closing result (operation :: due)) (.record operation) (.closing result due)

/-- What the first `n` replies of a stream report. -/
def pageReports (replies : Nat → Exchange) (n : Nat) : List Operation :=
  (List.range n).flatMap fun i => observe (replies i) ++ [check (replies i)]

/-- No sweep over a stream is over before page `n`. -/
def GoesOn (replies : Nat → Exchange) (n : Nat) : Prop :=
  ∀ i < n, (Sweep.progressAt replies i).isOver config.maxPages.val = false

/-- The acts of a call that has sent and taken so many of the requests and replies of
a stream. -/
structure Trail (replies : Nat → Exchange) (window : Window) (asked answered : Nat)
    (acts : List Act) : Prop where
  clock : ∃ now, acts.head? = some (.clock now) ∧
    Window.endingAt? now 0 shape.days = some window
  sent : Flow.sent acts = (List.range asked).map (Sweep.requestAt config window replies)
  taken : Flow.taken acts = (List.range answered).map replies

/-- What a call has behind it at a stage, when its replies are those of a stream. -/
def Behind (replies : Nat → Exchange) (acts : List Act) : Stage → Prop
  | .idle => acts = []
  | .asking window progress due => ∃ n, Trail config shape replies window n n acts ∧
      progress = Sweep.progressAt replies n ∧ GoesOn config replies (n + 1) ∧
      recorded acts ++ due = pageReports observe replies n
  | .waiting window progress => ∃ n, Trail config shape replies window (n + 1) n acts ∧
      progress = Sweep.progressAt replies n ∧ GoesOn config replies (n + 1) ∧
      recorded acts = pageReports observe replies n
  | .closing result due => ∃ window n, Trail config shape replies window n n acts ∧
      result = ⟨Sweep.totalAt replies n, n⟩ ∧ GoesOn config replies n ∧
      (Sweep.progressAt replies n).isOver config.maxPages.val = true ∧
      recorded acts ++ due = pageReports observe replies n ++ report shape result
  | .crashed => ∃ now, acts = [.clock now] ∧ Window.endingAt? now 0 shape.days = none

/-- A stream that begins with the given replies. -/
def Answers (replies : Nat → Exchange) (list : List Exchange) : Prop :=
  ∀ (k : Nat) (reply : Exchange), list[k]? = some reply → replies k = reply

end Steps

theorem sent_append (front back : List Act) : sent (front ++ back) = sent front ++ sent back :=
  List.filterMap_append

theorem taken_append (front back : List Act) : taken (front ++ back) = taken front ++ taken back :=
  List.filterMap_append

theorem recorded_append (front back : List Act) :
    recorded (front ++ back) = recorded front ++ recorded back :=
  List.flatMap_append

theorem answers_append (replies : Nat → Exchange) (front back : List Exchange)
    (h : Answers replies (front ++ back)) : Answers replies front := by
  intro k reply hk
  have hlt : k < front.length := (List.getElem?_eq_some_iff.mp hk).1
  exact h k reply (by rw [List.getElem?_append_left hlt]; exact hk)

/-- A list of replies begins some stream. -/
theorem exists_answers (list : List Exchange) : ∃ replies, Answers replies list :=
  ⟨fun k => list[k]?.getD (.nothing .zero), fun k reply hk => by
    simp only [hk, Option.getD_some]⟩

theorem range_succ_map {β : Type} (f : Nat → β) (n : Nat) :
    (List.range (n + 1)).map f = (List.range n).map f ++ [f n] := by
  rw [List.range_succ, List.map_append, List.map_singleton]

section Invariant

variable (observe : Exchange → List Operation) (config : Config) (shape : Shape)
variable (replies : Nat → Exchange)

theorem pageReports_succ (n : Nat) :
    pageReports observe replies (n + 1)
      = pageReports observe replies n ++ (observe (replies n) ++ [check (replies n)]) := by
  rw [pageReports, List.range_succ, List.flatMap_append, List.flatMap_singleton]
  rfl

theorem goesOn_succ (n : Nat) (h : GoesOn config replies n)
    (hn : (Sweep.progressAt replies n).isOver config.maxPages.val = false) :
    GoesOn config replies (n + 1) := by
  intro i hi
  rcases Nat.lt_succ_iff_lt_or_eq.mp hi with hlt | rfl
  · exact h i hlt
  · exact hn

/-- The clock was read first, whatever is done later. -/
theorem clock_append (window : Window) (acts : List Act) (act : Act)
    (h : ∃ now, acts.head? = some (.clock now) ∧
      Window.endingAt? now 0 shape.days = some window) :
    ∃ now, (acts ++ [act]).head? = some (.clock now) ∧
      Window.endingAt? now 0 shape.days = some window := by
  rcases h with ⟨now, hhead, hwindow⟩
  refine ⟨now, ?_, hwindow⟩
  rw [List.head?_append, hhead]
  rfl

section Trails

variable (window : Window) (asked answered : Nat) (acts : List Act)
variable (htrail : Trail config shape replies window asked answered acts)
include htrail

theorem trail_send :
    Trail config shape replies window (asked + 1) answered
      (acts ++ [.send (Sweep.requestAt config window replies asked)]) := by
  refine ⟨clock_append shape window acts _ htrail.clock, ?_, ?_⟩
  · rw [sent_append, htrail.sent, range_succ_map]
    rfl
  · rw [taken_append, htrail.taken]
    exact List.append_nil _

theorem trail_take :
    Trail config shape replies window asked (answered + 1)
      (acts ++ [.take (replies answered)]) := by
  refine ⟨clock_append shape window acts _ htrail.clock, ?_, ?_⟩
  · rw [sent_append, htrail.sent]
    exact List.append_nil _
  · rw [taken_append, htrail.taken, range_succ_map]
    rfl

theorem trail_record (operation : Operation) :
    Trail config shape replies window asked answered (acts ++ [.record operation]) := by
  refine ⟨clock_append shape window acts _ htrail.clock, ?_, ?_⟩
  · rw [sent_append, htrail.sent]
    exact List.append_nil _
  · rw [taken_append, htrail.taken]
    exact List.append_nil _

/-- The reply that is taken next is the next one of the stream. -/
theorem reply_eq (reply : Exchange)
    (hreplies : Answers replies (taken (acts ++ [.take reply]))) : reply = replies answered := by
  refine (hreplies answered reply ?_).symm
  have hlength : (taken acts).length = answered := by
    rw [htrail.taken, List.length_map, List.length_range]
  rw [taken_append, ← hlength]
  exact List.getElem?_concat_length

end Trails

/-- A recorded operation was due before. -/
theorem recorded_record (acts : List Act) (operation : Operation) (due : List Operation) :
    recorded (acts ++ [.record operation]) ++ due = recorded acts ++ operation :: due := by
  rw [recorded_append, List.append_assoc]
  rfl

/-- A step keeps the invariant, as long as its reply is that of the stream. -/
theorem behind_step (acts : List Act) (act : Act) (s t : Stage)
    (hs : Behind observe config shape replies acts s) (hstep : Step observe config shape s act t)
    (hreplies : Answers replies (taken (acts ++ [act]))) :
    Behind observe config shape replies (acts ++ [act]) t := by
  cases hstep with
  | clock now =>
      -- The clock is read once, before anything else. If its date has no window,
      -- the call has crashed.
      have hacts : acts = [] := hs
      rw [hacts, Stage.opened]
      cases hwindow : Window.endingAt? now 0 shape.days with
      | none => exact ⟨now, rfl, hwindow⟩
      | some window =>
          refine ⟨0, ⟨⟨now, rfl, hwindow⟩, rfl, rfl⟩, rfl, ?_, rfl⟩
          refine goesOn_succ config replies 0 (fun i hi => absurd hi (Nat.not_lt_zero i)) ?_
          exact Bool.eq_false_iff.mpr (Bool.eq_false_iff.mp (Sweep.isOver_start config))
  | send window progress =>
      rcases hs with ⟨n, htrail, rfl, hgoes, hrecorded⟩
      -- The request that is sent is that of the progress, which the replies
      -- so far determine.
      have hsent := trail_send config shape replies window n n acts htrail
      rw [← Sweep.request_progressAt] at hsent
      refine ⟨n, hsent, rfl, hgoes, ?_⟩
      rw [recorded_append, ← hrecorded]
      rfl
  | take window progress reply =>
      rcases hs with ⟨n, htrail, rfl, hgoes, hrecorded⟩
      -- The reply is the next one of the stream, and so is the progress after it.
      rw [reply_eq config shape replies window _ n acts htrail reply hreplies]
      have htaken := trail_take config shape replies window _ n acts htrail
      have hdue : recorded (acts ++ [.take (replies n)]) ++ (observe (replies n)
          ++ [check (replies n)]) = pageReports observe replies (n + 1) := by
        rw [recorded_append, hrecorded, pageReports_succ]
        exact congrArg (· ++ _) (List.append_nil _)
      by_cases hover : ((Sweep.progressAt replies n).after (replies n)).isOver
          config.maxPages.val = true
      · rw [answered_of_isOver observe config shape window _ _ hover, ← Sweep.progressAt_succ]
        rw [← Sweep.progressAt_succ] at hover
        refine ⟨window, n + 1, htaken, rfl, hgoes, hover, ?_⟩
        rw [← List.append_assoc, hdue]
      · rw [answered_of_not_isOver observe config shape window _ _ hover,
          ← Sweep.progressAt_succ]
        rw [← Sweep.progressAt_succ] at hover
        exact ⟨n + 1, htaken, rfl, goesOn_succ config replies (n + 1) hgoes
          (Bool.eq_false_iff.mpr hover), hdue⟩
  | record window progress operation due =>
      rcases hs with ⟨n, htrail, rfl, hgoes, hrecorded⟩
      refine ⟨n, trail_record config shape replies window n n acts htrail operation, rfl, hgoes, ?_⟩
      -- What was due first is recorded now, so both together stay the same.
      rw [recorded_record, hrecorded]
  | recordLast result operation due =>
      rcases hs with ⟨window, n, htrail, rfl, hgoes, hover, hrecorded⟩
      refine ⟨window, n, trail_record config shape replies window n n acts htrail operation, rfl,
        hgoes, hover, ?_⟩
      rw [recorded_record, hrecorded]

/-- What a call has behind it, whatever it has done so far. -/
theorem behind_steps (acts : List Act) (s : Stage)
    (hsteps : Interleaving.Steps (Step observe config shape) .idle acts s)
    (hreplies : Answers replies (taken acts)) :
    Behind observe config shape replies acts s := by
  induction hsteps with
  | nil => exact rfl
  | snoc acts act t u hsteps hstep ih =>
      -- A stream that goes on from all replies goes on from the earlier ones.
      have hbefore : Answers replies (taken acts) := by
        rw [taken_append] at hreplies
        exact answers_append replies _ _ hreplies
      exact behind_step observe config shape replies acts act t u (ih hbefore) hstep hreplies

/-- A flow alone: its visits and its reports are those of the first `n` replies, where
the sweep is over for the first time. -/
theorem run_eq_ok (now : Instant) (window : Window)
    (hwindow : Window.endingAt? now 0 shape.days = some window) :
    ∃ n, GoesOn config replies n ∧
      (Sweep.progressAt replies n).isOver config.maxPages.val = true ∧
      run (Sweep.answering replies) observe config shape now 0
        = .ok ⟨⟨(List.range n).map (Sweep.visitAt statusCheck config window replies),
            ⟨Sweep.totalAt replies n, n⟩, n⟩,
          pageReports observe replies n ++ report shape ⟨Sweep.totalAt replies n, n⟩⟩ := by
  rcases Sweep.exists_length replies config.maxPages.val with ⟨n, -, hover, hgoes⟩
  refine ⟨n, hgoes, hover, ?_⟩
  rw [run, hwindow]
  simp only [Sweep.run_answering statusCheck config window replies n hover hgoes,
    List.flatMap_map]
  rfl

end Invariant

/-- A call beside others is like a call alone: it has sent, taken and recorded the
beginning of what the call alone does, at most one request ahead of the replies, and
once it has nothing left to do, all of it. -/
structure AsAlone (alone : Outcome Nat) (acts : List Act) (stage : Stage) : Prop where
  sent : Flow.sent acts <+: alone.log.visits.map Sweep.Visit.url
  taken : Flow.taken acts <+: alone.log.visits.map Sweep.Visit.reply
  le_sent : (Flow.taken acts).length ≤ (Flow.sent acts).length
  sent_le : (Flow.sent acts).length ≤ (Flow.taken acts).length + 1
  recorded : Flow.recorded acts <+: alone.operations
  finished : ∀ result, stage = .closing result [] → result = alone.log.result ∧
    Flow.sent acts = alone.log.visits.map Sweep.Visit.url ∧ Flow.recorded acts = alone.operations

theorem prefix_range_map {β : Type} (f : Nat → β) (m n : Nat) (h : m ≤ n) :
    (List.range m).map f <+: (List.range n).map f := by
  have htake : (List.range n).take m = List.range m := by
    rw [List.take_range, Nat.min_eq_left h]
  rw [← htake, List.map_take]
  exact List.take_prefix _ _

theorem prefix_pageReports (observe : Exchange → List Operation) (replies : Nat → Exchange)
    (m n : Nat) (h : m ≤ n) : pageReports observe replies m <+: pageReports observe replies n := by
  induction h with
  | refl => exact List.prefix_refl _
  | step h ih =>
      rw [pageReports_succ]
      exact ih.trans (List.prefix_append _ _)

/-- A sweep that goes on before page `n` is not over before it. -/
theorem le_of_isOver (config : Config) (replies : Nat → Exchange) (m n : Nat)
    (hgoes : GoesOn config replies m)
    (hover : (Sweep.progressAt replies n).isOver config.maxPages.val = true) : m ≤ n := by
  by_contra hlt
  rw [hgoes n (by omega)] at hover
  exact absurd hover Bool.false_ne_true

/-- The parts of `AsAlone` that only count requests and replies. -/
theorem asAlone_of_trail (observe : Exchange → List Operation) (config : Config) (shape : Shape)
    (replies : Nat → Exchange) (window : Window) (asked answered n : Nat) (acts : List Act)
    (stage : Stage) (htrail : Trail config shape replies window asked answered acts)
    (hle : answered ≤ asked) (hsucc : asked ≤ answered + 1) (hasked : asked ≤ n)
    (hrecorded : recorded acts
      <+: pageReports observe replies n ++ report shape ⟨Sweep.totalAt replies n, n⟩)
    (hfinished : ∀ result, stage = .closing result [] → result = ⟨Sweep.totalAt replies n, n⟩ ∧
      asked = n ∧ recorded acts
        = pageReports observe replies n ++ report shape ⟨Sweep.totalAt replies n, n⟩) :
    AsAlone ⟨⟨(List.range n).map (Sweep.visitAt statusCheck config window replies),
        ⟨Sweep.totalAt replies n, n⟩, n⟩,
      pageReports observe replies n ++ report shape ⟨Sweep.totalAt replies n, n⟩⟩ acts stage := by
  have hurls : ((List.range n).map (Sweep.visitAt statusCheck config window replies)).map
      Sweep.Visit.url = (List.range n).map (Sweep.requestAt config window replies) :=
    List.map_map
  have hreplies : ((List.range n).map (Sweep.visitAt statusCheck config window replies)).map
      Sweep.Visit.reply = (List.range n).map replies :=
    List.map_map
  refine ⟨?_, ?_, ?_, ?_, hrecorded, fun result hstage => ?_⟩
  · rw [htrail.sent, hurls]
    exact prefix_range_map _ asked n hasked
  · rw [htrail.taken, hreplies]
    exact prefix_range_map _ answered n (by omega)
  · rw [htrail.sent, htrail.taken, List.length_map, List.length_map, List.length_range,
      List.length_range]
    exact hle
  · rw [htrail.sent, htrail.taken, List.length_map, List.length_map, List.length_range,
      List.length_range]
    exact hsucc
  · rcases hfinished result hstage with ⟨hresult, hall, hoperations⟩
    refine ⟨hresult, ?_, hoperations⟩
    rw [htrail.sent, hurls, hall]

/-- The first thing that a call does is to read the clock. -/
theorem exists_clock (observe : Exchange → List Operation) (config : Config) (shape : Shape)
    (replies : Nat → Exchange) (acts : List Act) (stage : Stage)
    (h : Behind observe config shape replies acts stage) :
    acts = [] ∨ ∃ now, acts.head? = some (.clock now) := by
  cases stage with
  | idle => exact Or.inl h
  | crashed =>
      rcases h with ⟨now, rfl, -⟩
      exact Or.inr ⟨now, rfl⟩
  | asking window progress due =>
      rcases h with ⟨n, htrail, -⟩
      exact Or.inr (htrail.clock.imp fun now h => h.1)
  | waiting window progress =>
      rcases h with ⟨n, htrail, -⟩
      exact Or.inr (htrail.clock.imp fun now h => h.1)
  | closing result due =>
      rcases h with ⟨window, n, htrail, -⟩
      exact Or.inr (htrail.clock.imp fun now h => h.1)

/-- The call that read the clock at `now`, alone. -/
theorem run_of_trail (observe : Exchange → List Operation) (config : Config) (shape : Shape)
    (replies : Nat → Exchange) (window : Window) (asked answered : Nat) (acts : List Act)
    (now : Instant) (hhead : acts.head? = some (.clock now))
    (htrail : Trail config shape replies window asked answered acts) :
    ∃ n, GoesOn config replies n ∧
      (Sweep.progressAt replies n).isOver config.maxPages.val = true ∧
      run (Sweep.answering replies) observe config shape now 0
        = .ok ⟨⟨(List.range n).map (Sweep.visitAt statusCheck config window replies),
            ⟨Sweep.totalAt replies n, n⟩, n⟩,
          pageReports observe replies n ++ report shape ⟨Sweep.totalAt replies n, n⟩⟩ := by
  rcases htrail.clock with ⟨other, hother, hwindow⟩
  rw [hhead] at hother
  have hsame : now = other := Act.clock.inj (Option.some.inj hother)
  rw [← hsame] at hwindow
  exact run_eq_ok observe config shape replies now window hwindow

/-- A call does what it would do alone, if the stream goes on from the replies that it
took. -/
theorem asAlone_of_behind (observe : Exchange → List Operation) (config : Config) (shape : Shape)
    (replies : Nat → Exchange) (acts : List Act) (stage : Stage) (now : Instant)
    (hhead : acts.head? = some (.clock now))
    (h : Behind observe config shape replies acts stage) :
    match run (Sweep.answering replies) observe config shape now 0 with
    | .error _ => acts = [.clock now] ∧ stage = .crashed
    | .ok alone => AsAlone alone acts stage := by
  cases stage with
  | idle =>
      -- The call has read the clock already.
      have hacts : acts = [] := h
      rw [hacts] at hhead
      exact absurd hhead (by simp only [List.head?_nil, reduceCtorEq, not_false_eq_true])
  | crashed =>
      rcases h with ⟨other, rfl, hwindow⟩
      have hsame : other = now := Act.clock.inj (Option.some.inj hhead)
      rw [hsame] at hwindow ⊢
      rw [run, hwindow]
      exact ⟨rfl, rfl⟩
  | asking window progress due =>
      rcases h with ⟨m, htrail, -, hgoes, hrecorded⟩
      rcases run_of_trail observe config shape replies window m m acts now hhead htrail
        with ⟨n, -, hover, hrun⟩
      -- The sweep was not over at this stage, so the call alone goes further.
      have hle := le_of_isOver config replies (m + 1) n hgoes hover
      rw [hrun]
      refine asAlone_of_trail observe config shape replies window m m n acts _ htrail
        (Nat.le_refl m) (by omega) (by omega) ?_ (fun _ hstage => Stage.noConfusion hstage)
      refine List.IsPrefix.trans ?_ (List.prefix_append _ _)
      refine List.IsPrefix.trans ?_ (prefix_pageReports observe replies m n (by omega))
      rw [← hrecorded]
      exact List.prefix_append _ _
  | waiting window progress =>
      rcases h with ⟨m, htrail, -, hgoes, hrecorded⟩
      rcases run_of_trail observe config shape replies window (m + 1) m acts now hhead htrail
        with ⟨n, -, hover, hrun⟩
      have hle := le_of_isOver config replies (m + 1) n hgoes hover
      rw [hrun]
      refine asAlone_of_trail observe config shape replies window (m + 1) m n acts _ htrail
        (by omega) (Nat.le_refl _) (by omega) ?_ (fun _ hstage => Stage.noConfusion hstage)
      refine List.IsPrefix.trans ?_ (List.prefix_append _ _)
      rw [hrecorded]
      exact prefix_pageReports observe replies m n (by omega)
  | closing result due =>
      rcases h with ⟨window, m, htrail, hresult, hgoes, hend, hrecorded⟩
      rcases run_of_trail observe config shape replies window m m acts now hhead htrail
        with ⟨n, hn, hover, hrun⟩
      -- Both are where the sweep is over for the first time.
      have heq : m = n := Nat.le_antisymm (le_of_isOver config replies m n hgoes hover)
        (le_of_isOver config replies n m hn hend)
      subst heq
      rw [hrun]
      refine asAlone_of_trail observe config shape replies window m m m acts _ htrail
        (Nat.le_refl m) (by omega) (Nat.le_refl m) ?_ (fun other hstage => ?_)
      · rw [← hresult, ← hrecorded]
        exact List.prefix_append _ _
      · rcases Stage.closing.inj hstage with ⟨rfl, rfl⟩
        rw [List.append_nil, hresult] at hrecorded
        exact ⟨hresult, rfl, hrecorded⟩

/-- The result of a call depends on the replies it took and on nothing else. -/
theorem result_unique (observe : Exchange → List Operation) (config : Config)
    (shape other : Shape) (replies : Nat → Exchange) (acts others : List Act)
    (result expected : Sweep.Result) (due more : List Operation)
    (h : Behind observe config shape replies acts (.closing result due))
    (hother : Behind observe config other replies others (.closing expected more)) :
    result = expected := by
  rcases h with ⟨-, m, -, rfl, hgoes, hover, -⟩
  rcases hother with ⟨-, n, -, rfl, hgoes', hover', -⟩
  have heq : m = n := Nat.le_antisymm (le_of_isOver config replies m n hgoes hover')
    (le_of_isOver config replies n m hgoes' hover)
  rw [heq]

end Flow

end PageSweep
