import PageSweep.Proofs.Flow.Calls
import PageSweep.Proofs.Flow.Series

/-!
# The Outcome of a Flow

A flow reports to the series of its shape once, when its sweep is over: a sample of the
time per page, a sample of the time per flow and the number of pages. Until then nothing
is in them. What comes of a flow is decided when it reads the clock. If the window lies
inside the calendar, the flow makes a request at least and reports. If it does not, the
flow crashes, and no request is made and nothing is reported.

Which of the two it is depends on the number of days and the clock only, so a shape of
too many days crashes each of its flows.

## Main definitions

* `Shape.Fits`: The window of a shape lies inside the calendar.
* `Reported`: The series of a shape before and after one flow.

## Theorems

* `endingAt?_utc`: The window of a flow.
* `reported_run`: What reaches the series of a shape.
* `recorded_of_open`, `recorded_of_closed`: The same for a call beside others.
* `run_outcome`: What comes of a flow.
-/

namespace PageSweep

namespace Flow

open Interleaving

/-- The window of a shape up to an instant lies inside the calendar. -/
def Shape.Fits (shape : Shape) (now : Instant) : Prop :=
  Instant.Covered (now.nanos - shape.days * Instant.dayNanos)

/-- The window of a flow, which is told in UTC: only its start can leave the calendar. -/
theorem endingAt?_utc (shape : Shape) (now : Instant) :
    (shape.Fits now → ∃ window, Window.endingAt? now 0 shape.days = some window) ∧
    (¬ shape.Fits now → Window.endingAt? now 0 shape.days = none) := by
  unfold Shape.Fits Window.endingAt?
  simp only [Int.zero_mul, Int.add_zero]
  constructor
  · intro hfits
    exact ⟨_, if_pos ⟨now.covered, hfits, hfits⟩⟩
  · intro hfits
    exact if_neg fun hall => hfits hall.2.2

/-- The series of a shape before and after one flow: one sample more in each trend, and
the pages counted. -/
structure Reported (shape : Shape) (result : Sweep.Result) (before after : Registry) : Prop where
  page : after.samples shape.pageTrend
    = result.totalMs / Float.ofNat result.pages :: before.samples shape.pageTrend
  total : after.samples shape.totalTrend = result.totalMs :: before.samples shape.totalTrend
  pages : after.total shape.pageCounter
    = before.total shape.pageCounter + UInt64.ofNat result.pages

section Series

variable (observe : Exchange → List Operation) (hquiet : ∀ reply, Quiet (observe reply))
variable (shape : Shape)
include hquiet

/-- What replies call for is in no series of a shape. -/
theorem unseen_replies (replies : List Exchange) :
    let operations := replies.flatMap fun reply => observe reply ++ [check reply]
    samplesOf shape.pageTrend operations = [] ∧ samplesOf shape.totalTrend operations = [] ∧
    incrementsOf shape.pageCounter operations = [] := by
  intro operations
  -- The client is quiet, and the status check is no series of a shape.
  have hnone : ∀ {γ : Type} (reading : Operation → Option γ),
      (∀ reply, (observe reply).filterMap reading = []) →
      (∀ reply, reading (check reply) = none) → operations.filterMap reading = [] := by
    intro γ reading hclient hcheck
    rw [List.filterMap_flatMap]
    refine List.flatMap_eq_nil_iff.mpr fun reply _ => ?_
    rw [List.filterMap_append, hclient, List.filterMap_cons_none (hcheck reply)]
    rfl
  exact ⟨hnone _ (fun reply => (hquiet reply).pages shape) fun _ => rfl,
    hnone _ (fun reply => (hquiet reply).totals shape) fun _ => rfl,
    hnone _ (fun reply => (hquiet reply).counters shape) fun _ => rfl⟩

/-- The operations of a whole flow, read as the series of its shape. -/
theorem seen_flow (replies : List Exchange) (result : Sweep.Result) :
    let operations := (replies.flatMap fun reply => observe reply ++ [check reply])
      ++ report shape result
    samplesOf shape.pageTrend operations = [result.pageAvgMs] ∧
    samplesOf shape.totalTrend operations = [result.totalMs] ∧
    incrementsOf shape.pageCounter operations = [UInt64.ofNat result.pages] := by
  rcases unseen_replies observe hquiet shape replies with ⟨hpage, htotal, hpages⟩
  have hreport := samplesOf_report_page shape shape result
  have hreport' := samplesOf_report_total shape shape result
  have hreport'' := incrementsOf_report shape shape result
  rw [if_pos rfl] at hreport hreport' hreport''
  simp only [samplesOf_append, incrementsOf_append, hpage, htotal, hpages, hreport, hreport',
    hreport'', List.nil_append, and_self]

/-- A whole flow adds one sample to each trend of its shape, and counts its pages. -/
theorem reported_run (registry : Registry) (hsorted : registry.Sorted) (replies : List Exchange)
    (result : Sweep.Result) :
    Reported shape result registry
      (registry.run ((replies.flatMap fun reply => observe reply ++ [check reply])
        ++ report shape result)) := by
  rcases seen_flow observe hquiet shape replies result with ⟨hpage, htotal, hpages⟩
  refine ⟨?_, ?_, ?_⟩
  · rw [Registry.samples_run _ hsorted, hpage]
    rfl
  · rw [Registry.samples_run _ hsorted, htotal]
    rfl
  · rw [Registry.total_run _ hsorted, hpages, Registry.increased, List.map_singleton,
      List.sum_singleton, UInt64.ofNat_toNat]

end Series

section Calls

variable (observe : Exchange → List Operation) (config : Config) (shape : Shape)
variable (acts : List Act)

theorem pageReports_eq_flatMap (replies : Nat → Exchange) (n : Nat) :
    pageReports observe replies n
      = ((List.range n).map replies).flatMap fun reply => observe reply ++ [check reply] := by
  rw [pageReports, List.flatMap_map]

/-- A call whose window leaves the calendar has crashed as soon as it has read the
clock. -/
theorem crashed_of_not_fits (stage : Stage) (now : Instant) (hfits : ¬ shape.Fits now)
    (hsteps : Steps (Step observe config shape) .idle acts stage)
    (hhead : acts.head? = some (.clock now)) : acts = [.clock now] ∧ stage = .crashed := by
  rcases exists_answers (taken acts) with ⟨replies, hreplies⟩
  have halone := asAlone_of_behind observe config shape replies acts stage now hhead
    (behind_steps observe config shape replies acts stage hsteps hreplies)
  rw [run, (endingAt?_utc shape now).2 hfits] at halone
  exact halone

variable (hquiet : ∀ reply, Quiet (observe reply))
include hquiet

/-- As long as the sweep of a call is not over, the call has added nothing to the series
of its shape. -/
theorem recorded_of_open (stage : Stage)
    (hsteps : Steps (Step observe config shape) .idle acts stage)
    (hopen : ∀ result due, stage ≠ .closing result due) :
    samplesOf shape.pageTrend (recorded acts) = [] ∧
    samplesOf shape.totalTrend (recorded acts) = [] ∧
    incrementsOf shape.pageCounter (recorded acts) = [] := by
  rcases exists_answers (taken acts) with ⟨replies, hreplies⟩
  have hbehind := behind_steps observe config shape replies acts stage hsteps hreplies
  -- Everything recorded so far was called for by replies.
  have hreported : ∃ n due, recorded acts ++ due = pageReports observe replies n := by
    cases stage with
    | idle =>
        have hacts : acts = [] := hbehind
        exact ⟨0, [], by rw [hacts]; rfl⟩
    | asking window progress due =>
        rcases hbehind with ⟨n, -, -, -, hrecorded⟩
        exact ⟨n, due, hrecorded⟩
    | waiting window progress =>
        rcases hbehind with ⟨n, -, -, -, hrecorded⟩
        exact ⟨n, [], by rw [List.append_nil, hrecorded]⟩
    | closing result due => exact absurd rfl (hopen result due)
    | crashed =>
        rcases hbehind with ⟨now, rfl, -⟩
        exact ⟨0, [], rfl⟩
  rcases hreported with ⟨n, due, hall⟩
  rw [pageReports_eq_flatMap] at hall
  have hunseen := unseen_replies observe hquiet shape ((List.range n).map replies)
  simp only [← hall, samplesOf_append, incrementsOf_append, List.append_eq_nil_iff] at hunseen
  exact ⟨hunseen.1.1, hunseen.2.1.1, hunseen.2.2.1⟩

/-- A call that has come to its end has added one sample to each trend of its shape, and
counted its pages, of which there was one at least. -/
theorem recorded_of_closed (result : Sweep.Result)
    (hsteps : Steps (Step observe config shape) .idle acts (.closing result [])) :
    1 ≤ result.pages ∧ result.pages = (sent acts).length ∧
    samplesOf shape.pageTrend (recorded acts) = [result.pageAvgMs] ∧
    samplesOf shape.totalTrend (recorded acts) = [result.totalMs] ∧
    incrementsOf shape.pageCounter (recorded acts) = [UInt64.ofNat result.pages] := by
  rcases exists_answers (taken acts) with ⟨replies, hreplies⟩
  rcases behind_steps observe config shape replies acts _ hsteps hreplies
    with ⟨window, n, htrail, rfl, -, hover, hrecorded⟩
  have hpos : n ≠ 0 := by
    intro hzero
    rw [hzero] at hover
    exact absurd hover (Bool.eq_false_iff.mp (Sweep.isOver_start config))
  rw [List.append_nil, pageReports_eq_flatMap] at hrecorded
  rw [htrail.sent, List.length_map, List.length_range, hrecorded]
  exact ⟨Nat.one_le_iff_ne_zero.mpr hpos, rfl, seen_flow observe hquiet shape _ _⟩

end Calls

/-- What is reported over a sweep, page by page. -/
theorem operations_eq_flatMap (observe : Exchange → List Operation) (visits : List Sweep.Visit)
    (hreported : ∀ visit ∈ visits, visit.reported = [.record statusCheck visit.reply.isOk]) :
    (visits.flatMap fun v => observe v.reply ++ v.reported)
      = (visits.map Sweep.Visit.reply).flatMap fun reply => observe reply ++ [check reply] := by
  rw [List.flatMap_map]
  refine List.flatMap_congr fun visit hvisit => ?_
  rw [hreported visit hvisit, check]

variable {σ : Type}

/-- What comes of a flow, whatever the server replies. If its window lies inside the
calendar, it makes a request at least and one for each page, and the series of its shape
get one sample each and the number of pages. If it does not, the flow crashes: it has
read the clock, and neither sends nor records anything. -/
theorem run_outcome (serve : σ → Url → Exchange × σ) (observe : Exchange → List Operation)
    (hquiet : ∀ reply, Quiet (observe reply)) (config : Config) (shape : Shape) (now : Instant)
    (server : σ) (before : List Operation) :
    let registry := Registry.empty.run before
    (shape.Fits now ∧ ∃ outcome, run serve observe config shape now server = .ok outcome ∧
      1 ≤ outcome.log.result.pages ∧ outcome.log.result.pages ≤ config.maxPages.val ∧
      outcome.log.visits.length = outcome.log.result.pages ∧
      Reported shape outcome.log.result registry (registry.run outcome.operations)) ∨
    (¬ shape.Fits now ∧ run serve observe config shape now server = .error .window ∧
      ∀ acts stage, Steps (Step observe config shape) .idle acts stage →
        acts.head? = some (.clock now) →
          stage = .crashed ∧ sent acts = [] ∧ recorded acts = []) := by
  intro registry
  by_cases hfits : shape.Fits now
  · rcases (endingAt?_utc shape now).1 hfits with ⟨window, hwindow⟩
    rcases Sweep.exists_run_eq serve statusCheck config window server with ⟨n, hpos, hcap, hlog⟩
    have hreported := reported_run observe hquiet shape registry
      (Registry.sorted_empty_run before)
      ((Sweep.run serve statusCheck config window server).visits.map Sweep.Visit.reply)
      (Sweep.run serve statusCheck config window server).result
    have hvisits := operations_eq_flatMap observe
      (Sweep.run serve statusCheck config window server).visits
      (Sweep.reported_of_mem_visits serve statusCheck config window server)
    rw [← hvisits] at hreported
    refine Or.inl ⟨hfits, _, by rw [run, hwindow], ?_, ?_, ?_, hreported⟩
    · rw [hlog]
      exact hpos
    · rw [hlog]
      exact hcap
    · rw [hlog, List.length_map, List.length_range]
  · refine Or.inr ⟨hfits, by rw [run, (endingAt?_utc shape now).2 hfits], ?_⟩
    intro acts stage hsteps hhead
    rcases crashed_of_not_fits observe config shape acts stage now hfits hsteps hhead
      with ⟨rfl, hstage⟩
    exact ⟨hstage, rfl, rfl⟩

/-- The instant at which 1970 begins. -/
def newYear : Instant := ⟨0, by decide⟩

/-- A server that replies with status 200 and nothing else. -/
def bodiless : Nat → Exchange := fun _ => ⟨some 200, none, .zero⟩

/-- A flow over the last day of 1969 runs and reports to an empty registry. -/
theorem run_outcome_newYear :
    (∀ reply, Quiet (Http.report reply)) ∧ lastDay.Fits newYear ∧
    ∃ outcome, run (Sweep.answering bodiless) Http.report Sweep.localConfig lastDay newYear 0
        = .ok outcome ∧
      1 ≤ outcome.log.result.pages ∧
      Reported lastDay outcome.log.result Registry.empty
        (Registry.empty.run outcome.operations) := by
  have hfits : lastDay.Fits newYear := by
    unfold Shape.Fits
    decide
  rcases run_outcome (Sweep.answering bodiless) Http.report Http.quiet_report Sweep.localConfig
      lastDay newYear 0 [] with ⟨-, outcome, hrun, hpos, -, -, hreported⟩ | ⟨hno, -⟩
  · exact ⟨Http.quiet_report, hfits, outcome, hrun, hpos, hreported⟩
  · exact absurd hfits hno

/-- A shape of as many days as 32 bits can count. -/
def endless : Shape := ⟨"endless", 4294967295⟩

/-- Its window leaves the calendar, and then the flow does not come back without a
result but crashes. -/
theorem run_endless :
    let call := run (Sweep.answering bodiless) Http.report Sweep.localConfig endless newYear 0
    call = .error .window ∧ ∀ outcome, call ≠ .ok outcome := by
  have hfits : ¬ endless.Fits newYear := by
    unfold Shape.Fits
    decide
  have hcall : run (Sweep.answering bodiless) Http.report Sweep.localConfig endless newYear 0
      = .error .window := by
    rw [run, (endingAt?_utc endless newYear).2 hfits]
  intro call
  refine ⟨hcall, fun outcome hok => ?_⟩
  exact absurd (hcall.symm.trans hok) (by simp only [reduceCtorEq, not_false_eq_true])

end Flow

end PageSweep
