import PageSweep.Bench
import PageSweep.Proofs.Flow.Turns

/-!
# Virtual Users, Step by Step

A virtual user runs one flow after another until it stops. When it stops is not said
here, nor in which order users take their steps, so a run of these users is any run
that a clock or a scheduler might bring about.

What a user has reported always balances with what it was told. Every reply that it
took calls for the reports of the client and one outcome of the check, and every flow
that it completed calls for one report of the shape. Up to their order, that is what
it has recorded and what is still due. The replies are also the pages of its flows,
those of the flow under way included.

## Main definitions

* `User`: A virtual user between two steps.
* `User.Act`: Something that a user does.
* `User.Step`: The steps of a user.
* `User.Balanced`: What a user reported against what it was told.
* `User.Even`: An act that changes both sides alike.

## Theorems

* `balanced_concat`: An even act keeps the balance.
* `exists_even`: Every step is even.
* `balanced_steps`: The balance of a user.
-/

namespace PageSweep

namespace Bench

/-- A virtual user between two steps. -/
inductive User where
  /-- No flow is under way. -/
  | between
  | flowing (stage : Flow.Stage)
  | stopped

namespace User

/-- Something that a user does. -/
inductive Act where
  | begin
  | flow (act : Flow.Act)
  /-- The iteration is complete. -/
  | finish (result : Sweep.Result)
  | stop

/-- The request that an act sends. -/
def Act.url? : Act → Option Url
  | .flow act => act.url?
  | _ => none

/-- The reply that an act takes. -/
def Act.reply? : Act → Option Exchange
  | .flow act => act.reply?
  | _ => none

/-- The result of the iteration that an act completes. -/
def Act.result? : Act → Option Sweep.Result
  | .finish result => some result
  | _ => none

/-- What an act reports to the registry. -/
def Act.operations : Act → List Operation
  | .flow act => act.operations
  | _ => []

/-- The requests among acts. -/
def sent (acts : List Act) : List Url :=
  acts.filterMap Act.url?

/-- The replies among acts. -/
def taken (acts : List Act) : List Exchange :=
  acts.filterMap Act.reply?

/-- The results of the completed iterations among acts. -/
def finished (acts : List Act) : List Sweep.Result :=
  acts.filterMap Act.result?

/-- What acts report. -/
def recorded (acts : List Act) : List Operation :=
  acts.flatMap Act.operations

/-- What a user still has to record. -/
def due : User → List Operation
  | .flowing (.asking _ _ due) => due
  | .flowing (.closing _ due) => due
  | _ => []

/-- The result of a flow that is over but does not count as completed yet. -/
def closed : User → List Sweep.Result
  | .flowing (.closing result _) => [result]
  | _ => []

/-- The pages of the flow under way. -/
def underWay : User → Nat
  | .flowing (.asking _ progress _) => progress.pages
  | .flowing (.waiting _ progress) => progress.pages
  | _ => 0

/-- The number of requests without a reply. -/
def unanswered : User → Nat
  | .flowing (.waiting _ _) => 1
  | _ => 0

section Steps

variable (observe : Exchange → List Operation) (config : Config) (shape : Flow.Shape)

/-- The steps of a user. -/
inductive Step : User → Act → User → Prop where
  | begin : Step .between .begin (.flowing .idle)
  | flow (s t : Flow.Stage) (act : Flow.Act) (h : Flow.Step observe config shape s act t) :
      Step (.flowing s) (.flow act) (.flowing t)
  | finish (result : Sweep.Result) :
      Step (.flowing (.closing result [])) (.finish result) .between
  | stop : Step .between .stop .stopped

/-- What a reply calls for. -/
def replyReports (reply : Exchange) : List Operation :=
  observe reply ++ [Flow.check reply]

/-- What a user reported against what it was told. -/
structure Balanced (acts : List Act) (user : User) : Prop where
  recorded : (recorded acts ++ user.due).Perm ((taken acts).flatMap (replyReports observe)
    ++ (finished acts ++ user.closed).flatMap (Flow.report shape))
  pages : ((finished acts ++ user.closed).map Sweep.Result.pages).sum + user.underWay
    = (taken acts).length
  bounds : ∀ result ∈ finished acts ++ user.closed,
    1 ≤ result.pages ∧ result.pages ≤ config.maxPages.val
  sent : (sent acts).length = (taken acts).length + user.unanswered
  underWay_lt : user.underWay < config.maxPages.val

end Steps

theorem filterMap_concat {γ : Type} (f : Act → Option γ) (acts : List Act) (act : Act) :
    (acts ++ [act]).filterMap f = acts.filterMap f ++ (f act).toList := by
  rw [List.filterMap_append]
  cases h : f act with
  | none => rw [List.filterMap_cons_none h, List.filterMap_nil, Option.toList_none]
  | some value => rw [List.filterMap_cons_some h, List.filterMap_nil, Option.toList_some]

theorem sent_concat (acts : List Act) (act : Act) :
    sent (acts ++ [act]) = sent acts ++ act.url?.toList :=
  filterMap_concat _ acts act

theorem taken_concat (acts : List Act) (act : Act) :
    taken (acts ++ [act]) = taken acts ++ act.reply?.toList :=
  filterMap_concat _ acts act

theorem finished_concat (acts : List Act) (act : Act) :
    finished (acts ++ [act]) = finished acts ++ act.result?.toList :=
  filterMap_concat _ acts act

theorem recorded_concat (acts : List Act) (act : Act) :
    recorded (acts ++ [act]) = recorded acts ++ act.operations := by
  rw [recorded, List.flatMap_append, List.flatMap_singleton]
  rfl

section Balance

variable (observe : Exchange → List Operation) (config : Config) (shape : Flow.Shape)

theorem balanced_nil : Balanced observe config shape [] .between :=
  ⟨List.Perm.nil, rfl, fun _ h => absurd h List.not_mem_nil, rfl, config.maxPages.pos⟩

/-- What an act changes on one side of the balance it changes on the other. The flows
that are over now are `fresh`. They become due for their reports when they are over,
and they count as completed later, so `fresh` is empty when one of them does. -/
structure Even (user : User) (act : Act) (next : User) (fresh : List Sweep.Result) : Prop where
  due : act.operations ++ next.due = user.due ++ (act.reply?.toList.flatMap (replyReports observe)
    ++ fresh.flatMap (Flow.report shape))
  closed : act.result?.toList ++ next.closed = user.closed ++ fresh
  pages : (fresh.map Sweep.Result.pages).sum + next.underWay
    = user.underWay + act.reply?.toList.length
  bounds : ∀ result ∈ fresh, 1 ≤ result.pages ∧ result.pages ≤ config.maxPages.val
  sent : user.unanswered + act.url?.toList.length
    = act.reply?.toList.length + next.unanswered
  underWay_lt : next.underWay < config.maxPages.val

variable {observe config shape}

/-- An even act keeps the balance. -/
theorem balanced_concat {acts : List Act} {user : User}
    (h : Balanced observe config shape acts user) {act : Act} {next : User}
    {fresh : List Sweep.Result} (heven : Even observe config shape user act next fresh) :
    Balanced observe config shape (acts ++ [act]) next := by
  -- The results on both sides: first the old ones, then the fresh ones.
  have hresults : finished (acts ++ [act]) ++ next.closed
      = (finished acts ++ user.closed) ++ fresh := by
    rw [finished_concat, List.append_assoc, heven.closed, List.append_assoc]
  refine ⟨?_, ?_, ?_, ?_, heven.underWay_lt⟩
  · rw [hresults, recorded_concat, taken_concat, List.append_assoc, heven.due, ← List.append_assoc,
      List.flatMap_append, List.flatMap_append]
    refine (h.recorded.append_right _).trans ?_
    -- Only the order differs: what the reply calls for stands before the reports.
    rw [List.append_assoc, List.append_assoc]
    exact (List.perm_append_comm_assoc _ _ _).append_left _
  · have hpages := h.pages
    have hmore := heven.pages
    rw [hresults, taken_concat, List.map_append, List.sum_append, List.length_append]
    omega
  · intro result hresult
    rw [hresults] at hresult
    rcases List.mem_append.mp hresult with hold | hfresh
    · exact h.bounds result hold
    · exact heven.bounds result hfresh
  · have hsent := h.sent
    have hmore := heven.sent
    rw [sent_concat, taken_concat, List.length_append, List.length_append]
    omega

variable (observe config shape)

/-- An act is even if it sends, takes and completes nothing and records what was due. -/
theorem even_idle (user : User) (act : Act) (next : User) (hurl : act.url? = none)
    (hreply : act.reply? = none) (hresult : act.result? = none)
    (hdue : act.operations ++ next.due = user.due) (hclosed : next.closed = user.closed)
    (hunderWay : next.underWay = user.underWay) (hunanswered : next.unanswered = user.unanswered)
    (hlt : user.underWay < config.maxPages.val) :
    Even observe config shape user act next [] := by
  refine ⟨?_, ?_, ?_, fun _ h => absurd h List.not_mem_nil, ?_, ?_⟩
  · rw [hreply, hdue]
    exact (List.append_nil _).symm
  · rw [hresult, hclosed]
    exact (List.append_nil _).symm
  · rw [hreply, hunderWay]
    exact Nat.zero_add _
  · rw [hurl, hreply, hunanswered]
    exact (Nat.zero_add _).symm
  · rw [hunderWay]
    exact hlt

theorem even_send (url : Url) (window : Window) (progress : Sweep.Progress)
    (hlt : progress.pages < config.maxPages.val) :
    Even observe config shape (.flowing (.asking window progress [])) (.flow (.send url))
      (.flowing (.waiting window progress)) [] :=
  ⟨rfl, rfl, Nat.zero_add _, fun _ h => absurd h List.not_mem_nil, rfl, hlt⟩

theorem even_finish (result : Sweep.Result) :
    Even observe config shape (.flowing (.closing result [])) (.finish result) .between [] :=
  ⟨rfl, rfl, rfl, fun _ h => absurd h List.not_mem_nil, rfl, config.maxPages.pos⟩

/-- The page of a reply belongs to the flow under way, or to one that is over now. -/
theorem exists_even_take (window : Window) (progress : Sweep.Progress) (reply : Exchange)
    (hlt : progress.pages < config.maxPages.val) :
    ∃ fresh, Even observe config shape (.flowing (.waiting window progress))
      (.flow (.take reply)) (.flowing (.answered observe config shape window progress reply))
      fresh := by
  have hpages : (progress.after reply).pages = progress.pages + 1 := rfl
  by_cases hover : (progress.after reply).isOver config.maxPages.val = true
  · rw [Flow.answered_of_isOver observe config shape window progress reply hover]
    refine ⟨[⟨(progress.after reply).totalMs, (progress.after reply).pages⟩], ?_, rfl, rfl, ?_,
      rfl, config.maxPages.pos⟩
    · have htaken : (Act.flow (.take reply)).reply?.toList = [reply] := rfl
      rw [htaken, List.flatMap_singleton, List.flatMap_singleton]
      rfl
    · intro result hresult
      rw [List.mem_singleton.mp hresult]
      simp only [hpages]
      omega
  · rw [Flow.answered_of_not_isOver observe config shape window progress reply hover]
    refine ⟨[], ?_, rfl, Nat.zero_add _, fun _ h => absurd h List.not_mem_nil, rfl,
      Sweep.pages_lt_of_not_isOver _ _ (Bool.eq_false_iff.mpr hover)⟩
    exact ((List.append_nil _).trans (List.append_nil _)).symm

/-- A step of a flow is even. -/
theorem exists_even_flow (act : Flow.Act) (s t : Flow.Stage)
    (hlt : (User.flowing s).underWay < config.maxPages.val)
    (hstep : Flow.Step observe config shape s act t) :
    ∃ fresh, Even observe config shape (.flowing s) (.flow act) (.flowing t) fresh := by
  cases hstep with
  | clock now =>
      -- The call goes on or has crashed, but neither has anything due.
      unfold Flow.Stage.opened
      cases Window.endingAt? now 0 shape.days with
      | none => exact ⟨[], even_idle observe config shape _ _ _ rfl rfl rfl rfl rfl rfl rfl hlt⟩
      | some window =>
          exact ⟨[], even_idle observe config shape _ _ _ rfl rfl rfl rfl rfl rfl rfl hlt⟩
  | send window progress => exact ⟨[], even_send observe config shape _ window progress hlt⟩
  | take window progress reply =>
      exact exists_even_take observe config shape window progress reply hlt
  | record window progress operation due =>
      exact ⟨[], even_idle observe config shape _ _ _ rfl rfl rfl rfl rfl rfl rfl hlt⟩
  | recordLast result operation due =>
      exact ⟨[], even_idle observe config shape _ _ _ rfl rfl rfl rfl rfl rfl rfl hlt⟩

/-- Every step is even. -/
theorem exists_even (act : Act) (s t : User) (hlt : s.underWay < config.maxPages.val)
    (hstep : Step observe config shape s act t) :
    ∃ fresh, Even observe config shape s act t fresh := by
  -- The steps of the user itself: a flow is completed by the user, not by its
  -- last act.
  cases hstep with
  | begin => exact ⟨[], even_idle observe config shape _ _ _ rfl rfl rfl rfl rfl rfl rfl hlt⟩
  | flow s t act h => exact exists_even_flow observe config shape act s t hlt h
  | finish result => exact ⟨[], even_finish observe config shape result⟩
  | stop => exact ⟨[], even_idle observe config shape _ _ _ rfl rfl rfl rfl rfl rfl rfl hlt⟩

/-- What a user reports balances with what it was told, whatever it has done so far. -/
theorem balanced_steps (acts : List Act) (user : User)
    (hsteps : Interleaving.Steps (Step observe config shape) .between acts user) :
    Balanced observe config shape acts user := by
  induction hsteps with
  | nil => exact balanced_nil observe config shape
  | snoc acts act s t hsteps hstep ih =>
      rcases exists_even observe config shape act s t ih.underWay_lt hstep with ⟨fresh, heven⟩
      exact balanced_concat ih heven

end Balance

end User

end Bench

end PageSweep
