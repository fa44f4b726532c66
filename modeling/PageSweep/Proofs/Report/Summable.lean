import PageSweep.Proofs.Decimal.Amount
import PageSweep.Proofs.Flow.Isolation
import PageSweep.Proofs.Flow.Outcome
import PageSweep.Proofs.Report.Order

/-!
# Every Run Can Be Summed Up

A single sample that is not finite leaves a whole run without a summary, and no flow
ever reports one. The time of a request is less than 2^94 milliseconds, because a clock
counts seconds in 64 bits. The times of a flow add up to no more than that for each page
of it, of which there are fewer than 2^32, and such bounds are doubles themselves, so
rounding does not get past them. The average divides by the number of pages, and there is
a page at least.

The rate of a counter divides by the time of the run. If no time has passed it is zero,
and the least time that can pass is long enough for the quotient to stay finite.

## Main definitions

* `Span.Measured`: What a clock can measure.
* `Progress.Sound`: The bound on the time of a sweep.
* `Operation.Sound`: An operation adds no sample but amounts.
* `Job`, `runJobs`: Flows that run one after another on one registry.

## Theorems

* `amount_toMillis`, `amount_seconds`: Spans as doubles.
* `sound_after`: The bound is kept by a page.
* `sound_report`: What a flow reports.
* `amount_rate`: The rate of a counter.
* `runJobs_summarised`: Flows one after another.
* `calls_summarised`: Flows beside each other.
-/

namespace PageSweep

open Decimal

/-- What a clock can measure: less than 2^64 whole seconds. -/
def Span.Measured (span : Span) : Prop := span.secs < 0x10000000000000000

section Spans

variable (span : Span) (hspan : span.Measured)
include hspan

theorem amount_toMillis : Amount span.toMillis ∧ amount span.toMillis ≤ scaled 1 94 := by
  unfold Span.Measured Span.secs at hspan
  rcases amount_ofNat_le span.nanos 94 (by omega) (by decide) with ⟨hamount, hle, -⟩
  rcases amount_million with ⟨hmillion, hvalue⟩
  exact amount_div_le _ _ hamount hmillion (by rw [hvalue]; norm_num) 1 94 (by decide)
    (by decide) (by decide) hle

omit hspan in
/-- The part of a span below a second: at most one, and no less than 2^-30 if there is
any. -/
theorem amount_subsec :
    Amount (Float.ofNat span.subsec / 1000000000.0) ∧
    amount (Float.ofNat span.subsec / 1000000000.0) ≤ scaled 1 0 ∧
    (span.subsec ≠ 0 → scaled 1 (-30) ≤ amount (Float.ofNat span.subsec / 1000000000.0)) := by
  have hsubsec : span.subsec < 1000000000 := Nat.mod_lt _ (by decide)
  rcases amount_ofNat_eq span.subsec (by omega) with ⟨hnanos, hnanosEq⟩
  rcases amount_billion with ⟨hbillion, hvalue⟩
  have hratio : amount (Float.ofNat span.subsec) / amount 1000000000.0 ≤ scaled 1 0 := by
    rw [hnanosEq, hvalue, scaled_natCast, Nat.cast_one, div_le_one (by norm_num)]
    exact_mod_cast hsubsec.le
  rcases amount_div _ _ hnanos hbillion (by rw [hvalue]; norm_num)
    (hratio.trans (scaled_le_largest 1 0 (by decide) (by decide))) with ⟨hamount, hrounds⟩
  refine ⟨hamount, (hrounds _ (grid_scaled 1 0 (by decide) (by decide))).1 hratio, fun hne => ?_⟩
  refine (hrounds _ (grid_scaled 1 (-30) (by decide) (by decide))).2 ?_
  have hsmall : scaled 1 (-30) = 1 / 2 ^ 30 := by
    unfold scaled
    norm_num
  have hone : (1 : ℚ) ≤ span.subsec := by exact_mod_cast Nat.one_le_iff_ne_zero.mpr hne
  rw [hnanosEq, hvalue, hsmall, div_le_div_iff₀ (by norm_num) (by norm_num)]
  linarith

/-- A span as seconds: if any time has passed, it is no less than 2^-30. -/
theorem amount_seconds :
    Amount (Summary.seconds span) ∧
    (span.nanos ≠ 0 → scaled 1 (-30) ≤ amount (Summary.seconds span)) := by
  unfold Span.Measured at hspan
  rcases amount_ofNat_le span.secs 64 (by omega) (by decide) with ⟨hsecs, hsecsLe, hsecsPos⟩
  rcases amount_subsec span with ⟨hfraction, hfractionLe, hfractionPos⟩
  have hsum : amount (Float.ofNat span.secs)
      + amount (Float.ofNat span.subsec / 1000000000.0) ≤ scaled 2 64 := by
    rw [← scaled_add 1 1]
    exact add_le_add hsecsLe (hfractionLe.trans (scaled_le_of_exponent_le 1 0 64 (by decide)))
  rcases amount_add _ _ hsecs hfraction
    (hsum.trans (scaled_le_largest 2 64 (by decide) (by decide))) with ⟨hresult, hrounds⟩
  refine ⟨hresult, fun hne => (hrounds _ (grid_scaled 1 (-30) (by decide) (by decide))).2 ?_⟩
  -- Whole seconds are enough, and so is a single nanosecond.
  by_cases hwhole : span.secs = 0
  · have hsome : span.subsec ≠ 0 := by
      unfold Span.secs at hwhole
      unfold Span.subsec
      omega
    exact le_add_of_nonneg_of_le (amount_nonneg _) (hfractionPos hsome)
  · exact le_add_of_le_of_nonneg
      ((scaled_le_of_exponent_le 1 (-30) 0 (by decide)).trans (hsecsPos hwhole)) (amount_nonneg _)

omit hspan in
/-- No time is zero seconds. -/
theorem ne_zero_of_seconds_pos (hpos : 0.0 < Summary.seconds span) : span.nanos ≠ 0 := by
  intro hzero
  have hsecs : Summary.seconds span = Summary.seconds .zero := by
    unfold Summary.seconds Span.secs Span.subsec
    rw [hzero]
    rfl
  rw [hsecs] at hpos
  exact absurd hpos (by decide +kernel)

/-- The rate of a counter, also if no time has passed. -/
theorem amount_rate (total : UInt64) : Amount (Summary.rate total span) := by
  unfold Summary.rate
  simp only []
  by_cases hguard : 0.0 < Summary.seconds span
  · rw [if_pos hguard]
    rcases amount_seconds span hspan with ⟨hseconds, hsome⟩
    have hleast := hsome (ne_zero_of_seconds_pos span hguard)
    rcases amount_toFloat total with ⟨htotal, hrounds⟩
    have hlt := total.toNat_lt
    have hle := (hrounds _ (grid_scaled 1 64 (by decide) (by decide))).1
      (natCast_le_scaled total.toNat 64 (by omega))
    have hpos : 0 < amount (Summary.seconds span) := by
      refine lt_of_lt_of_le ?_ hleast
      rw [scaled, Nat.cast_one, one_mul]
      exact two_zpow_pos _
    have hquotient : amount total.toFloat / amount (Summary.seconds span) ≤ scaled 1 94 := by
      rw [div_le_iff₀ hpos]
      -- A counter is at most 2^64, and the time at least 2^-30.
      calc amount total.toFloat ≤ scaled 1 64 := hle
        _ = scaled 1 94 * scaled 1 (-30) := by rw [scaled_mul]; rfl
        _ ≤ scaled 1 94 * amount (Summary.seconds span) :=
          mul_le_mul_of_nonneg_left hleast (scaled_nonneg _ _)
    exact (amount_div _ _ htotal hseconds hpos
      (hquotient.trans (scaled_le_largest 1 94 (by decide) (by decide)))).1
  · rw [if_neg hguard]
    exact amount_zero.1

end Spans

namespace Sweep

variable {σ : Type}

/-- The bound on the time of a sweep: 2^94 milliseconds for each page. -/
def Progress.Sound (p : Progress) : Prop :=
  Amount p.totalMs ∧ amount p.totalMs ≤ scaled p.pages 94

theorem sound_start : Progress.start.Sound := by
  rcases amount_zero with ⟨hzero, hvalue⟩
  refine ⟨hzero, ?_⟩
  rw [Progress.start, hvalue]
  exact scaled_nonneg _ _

/-- A page keeps the bound, as long as the number of pages is a double itself. -/
theorem sound_after (p : Progress) (reply : Exchange) (hp : p.Sound) (hpages : p.pages < 2 ^ 53)
    (hreply : reply.duration.Measured) : (p.after reply).Sound := by
  rcases amount_toMillis reply.duration hreply with ⟨hmillis, hle⟩
  refine amount_add_le _ _ hp.1 hmillis (p.pages + 1) 94 hpages (by decide) (by decide) ?_
  rw [← scaled_add]
  exact add_le_add hp.2 hle

theorem sound_stateAt (serve : σ → Url → Exchange × σ)
    (hserve : ∀ server url, (serve server url).1.duration.Measured) (config : Config)
    (window : Window) (server : σ) (i : Nat) (hi : i ≤ 2 ^ 53) :
    (stateAt serve config window server i).1.Sound := by
  induction i with
  | zero => exact sound_start
  | succ i ih =>
      rw [stateAt_succ]
      refine sound_after _ _ (ih (by omega)) ?_ (hserve _ _)
      rw [pages_stateAt]
      omega

/-- Every visit of a sweep has a reply of the server. -/
theorem measured_visits (serve : σ → Url → Exchange × σ)
    (hserve : ∀ server url, (serve server url).1.duration.Measured) (check : String)
    (config : Config) (window : Window) (server : σ) :
    ∀ visit ∈ (run serve check config window server).visits,
      visit.reply.duration.Measured := by
  rcases exists_run_eq serve check config window server with ⟨n, -, -, hrun⟩
  intro visit hvisit
  rw [hrun] at hvisit
  rcases List.mem_map.mp hvisit with ⟨i, -, rfl⟩
  exact hserve _ _

end Sweep

/-- An operation adds no sample but amounts. -/
def Operation.Sound : Operation → Prop
  | .add _ sample => Amount sample
  | _ => True

/-- A registry holds what sound operations have put there. -/
def Registry.Sound (r : Registry) : Prop :=
  ∃ operations, r = empty.run operations ∧ ∀ operation ∈ operations, operation.Sound

theorem Registry.sound_run (r : Registry) (hr : r.Sound) (operations : List Operation)
    (h : ∀ operation ∈ operations, operation.Sound) : (r.run operations).Sound := by
  rcases hr with ⟨before, rfl, hbefore⟩
  refine ⟨before ++ operations, List.foldl_append.symm, fun operation hmem => ?_⟩
  rcases List.mem_append.mp hmem with hfirst | hsecond
  · exact hbefore operation hfirst
  · exact h operation hsecond

/-- The samples of such a registry, its summary and the rates in it. -/
theorem Registry.summarised (r : Registry) (hr : r.Sound) (scenarios : List RunStatistics)
    (elapsed : Span) (helapsed : elapsed.Measured) :
    (∀ entry ∈ r.trends, ∀ x ∈ entry.2, isFinite x = true ∧ 0.0 ≤ x) ∧
    ∃ summary, Summary.collect r scenarios elapsed = .ok summary ∧
      ∀ counter ∈ summary.counters, isFinite counter.rate = true ∧ 0.0 ≤ counter.rate := by
  have hsamples : ∀ entry ∈ r.trends, ∀ x ∈ entry.2, Amount x := by
    rcases hr with ⟨operations, rfl, hsound⟩
    exact (forall_samples_run_iff Amount operations).mpr fun name x hadd => hsound _ hadd
  refine ⟨fun entry hentry x hx => ?_, ?_⟩
  · exact ⟨(hsamples entry hentry x hx).1, le_of_amount x (hsamples entry hentry x hx)⟩
  · have hfinite : r.Finite := fun entry hentry x hx => (hsamples entry hentry x hx).1
    rcases Summary.exists_collect r hfinite scenarios elapsed with ⟨summary, hsummary⟩
    refine ⟨summary, hsummary, fun counter hcounter => ?_⟩
    rw [((Summary.collect_eq_ok_iff r scenarios elapsed summary).mp hsummary).2.2.1] at hcounter
    rcases List.mem_map.mp hcounter with ⟨entry, -, rfl⟩
    exact ⟨(amount_rate elapsed helapsed _).1, le_of_amount _ (amount_rate elapsed helapsed _)⟩

namespace Flow

variable {σ : Type}

/-- What a flow reports at its end: the average is the time of the sweep, divided by a
number that is not zero. -/
theorem sound_report (shape : Shape) (result : Sweep.Result) (hpos : 1 ≤ result.pages)
    (hpages : result.pages ≤ 2 ^ 53) (htotal : Amount result.totalMs)
    (hle : amount result.totalMs ≤ scaled result.pages 94) :
    ∀ operation ∈ report shape result, operation.Sound := by
  rcases amount_ofNat_eq result.pages hpages with ⟨hcount, hvalue⟩
  have haverage : Amount result.pageAvgMs := by
    refine (amount_div_le _ _ htotal hcount ?_ result.pages 94 hpages (by decide) (by decide)
      hle).1
    rw [hvalue]
    exact_mod_cast hpos
  intro operation hmem
  simp only [report, List.mem_cons, List.not_mem_nil, or_false] at hmem
  rcases hmem with rfl | rfl | rfl
  · exact haverage
  · exact htotal
  · trivial

theorem sound_httpReport (reply : Exchange) (hreply : reply.duration.Measured) :
    ∀ operation ∈ Http.report reply, operation.Sound := by
  have hmillis := (amount_toMillis reply.duration hreply).1
  intro operation hmem
  cases h : Http.failed reply with
  | false =>
      rw [Http.report_of_succeeded reply h] at hmem
      simp only [List.mem_cons, List.not_mem_nil, or_false] at hmem
      rcases hmem with rfl | rfl
      · trivial
      · exact hmillis
  | true =>
      rw [Http.report_of_failed reply h] at hmem
      simp only [List.mem_cons, List.not_mem_nil, or_false] at hmem
      rcases hmem with rfl | rfl | rfl
      · trivial
      · exact hmillis
      · trivial

/-- A flow with all that it depends on. Its client is the HTTP client or one that
reports nothing. -/
structure Job where
  config : Config
  shape : Shape
  now : Instant
  http : Bool

/-- What the client of a flow reports. -/
def Job.observe (job : Job) : Exchange → List Operation :=
  if job.http then Http.report else fun _ => []

/-- Asks for everything that a flow and its client report to. -/
def Job.register (job : Job) : List Operation :=
  Flow.register job.shape ++ if job.http then Http.register else []

/-- Runs a flow on a registry. -/
def Job.run (serve : σ → Url → Exchange × σ) (state : σ × Registry) (job : Job) :
    Except Crash (σ × Registry) := do
  let outcome ← Flow.run serve job.observe job.config job.shape job.now state.1
  return (outcome.log.server, (state.2.run job.register).run outcome.operations)

/-- Runs flows one after another on one registry. -/
def runJobs (serve : σ → Url → Exchange × σ) (jobs : List Job) (state : σ × Registry) :
    Except Crash (σ × Registry) :=
  jobs.foldlM (Job.run serve) state

theorem sound_observe (job : Job) (reply : Exchange) (hreply : reply.duration.Measured) :
    ∀ operation ∈ job.observe reply, operation.Sound := by
  unfold Job.observe
  by_cases h : job.http = true
  · rw [if_pos h]
    exact sound_httpReport reply hreply
  · rw [if_neg h]
    exact fun operation hmem => absurd hmem List.not_mem_nil

/-- What a reply calls for. -/
theorem sound_reply (job : Job) (reply : Exchange) (hreply : reply.duration.Measured) :
    ∀ operation ∈ job.observe reply ++ [check reply], operation.Sound := by
  intro operation hmem
  rcases List.mem_append.mp hmem with hclient | hcheck
  · exact sound_observe job reply hreply operation hclient
  · rw [List.mem_singleton.mp hcheck]
    trivial

/-- Asking for series adds no sample. -/
theorem sound_register (job : Job) : ∀ operation ∈ job.register, operation.Sound := by
  intro operation hmem
  rcases List.mem_append.mp hmem with hflow | hclient
  · simp only [Flow.register, Shape.register, List.cons_append, List.nil_append, List.mem_cons,
      List.not_mem_nil, or_false] at hflow
    rcases hflow with rfl | rfl | rfl | rfl <;> trivial
  · by_cases h : job.http = true
    · rw [if_pos h] at hclient
      simp only [Http.register, List.mem_cons, List.not_mem_nil, or_false] at hclient
      rcases hclient with rfl | rfl | rfl <;> trivial
    · rw [if_neg h] at hclient
      exact absurd hclient List.not_mem_nil

section Jobs

variable (serve : σ → Url → Exchange × σ)
variable (hserve : ∀ server url, (serve server url).1.duration.Measured)
include hserve

/-- A flow whose window fits runs, and keeps the registry sound. -/
theorem sound_job (job : Job) (hfits : job.shape.Fits job.now) (state : σ × Registry)
    (hstate : state.2.Sound) :
    ∃ next, job.run serve state = .ok next ∧ next.2.Sound := by
  rcases (endingAt?_utc job.shape job.now).1 hfits with ⟨window, hwindow⟩
  refine ⟨_, by rw [Job.run, Flow.run, hwindow]; rfl, ?_⟩
  refine Registry.sound_run _ (Registry.sound_run _ hstate _ (sound_register job)) _ ?_
  -- What the replies call for, and then the report.
  intro operation hmem
  rcases List.mem_append.mp hmem with hvisit | hreport
  · rcases List.mem_flatMap.mp hvisit with ⟨visit, hvisit, hoperation⟩
    have hmeasured := Sweep.measured_visits serve hserve statusCheck job.config window state.1
      visit hvisit
    rw [Sweep.reported_of_mem_visits serve statusCheck job.config window state.1 visit hvisit]
      at hoperation
    exact sound_reply job visit.reply hmeasured operation hoperation
  · rcases Sweep.exists_run_eq serve statusCheck job.config window state.1
      with ⟨n, hpos, hcap, hrun⟩
    have hlt := job.config.maxPages.lt
    have hsound := Sweep.sound_stateAt serve hserve job.config window state.1 n (by omega)
    rw [hrun] at hreport
    refine sound_report job.shape _ hpos (by simp only []; omega) hsound.1 ?_ operation hreport
    have hbound := hsound.2
    rw [Sweep.pages_stateAt] at hbound
    exact hbound

theorem sound_jobs (jobs : List Job) (hfits : ∀ job ∈ jobs, job.shape.Fits job.now)
    (state : σ × Registry) (hstate : state.2.Sound) :
    ∃ next, runJobs serve jobs state = .ok next ∧ next.2.Sound := by
  unfold runJobs
  induction jobs generalizing state with
  | nil => exact ⟨state, rfl, hstate⟩
  | cons job rest ih =>
      rcases sound_job serve hserve job (hfits job List.mem_cons_self) state hstate
        with ⟨middle, hmiddle, hsound⟩
      rcases ih (fun other hother => hfits other (List.mem_cons_of_mem _ hother)) middle hsound
        with ⟨next, hnext, hend⟩
      refine ⟨next, ?_, hend⟩
      rw [List.foldlM_cons, hmiddle]
      exact hnext

end Jobs

/-- Flows one after another, of any shapes whose windows lie inside the calendar, with
any replies whose durations can be measured. Every sample of every trend is finite and
not below zero, so there is a summary, and the rate of every counter is finite and not
below zero, whatever time has passed. -/
theorem runJobs_summarised (serve : σ → Url → Exchange × σ)
    (hserve : ∀ server url, (serve server url).1.duration.Measured) (jobs : List Job)
    (hfits : ∀ job ∈ jobs, job.shape.Fits job.now) (server : σ) :
    ∃ after registry, runJobs serve jobs (server, Registry.empty) = .ok (after, registry) ∧
      (∀ entry ∈ registry.trends, ∀ x ∈ entry.2, isFinite x = true ∧ 0.0 ≤ x) ∧
      ∀ (scenarios : List RunStatistics) (elapsed : Span), elapsed.Measured →
        ∃ summary, Summary.collect registry scenarios elapsed = .ok summary ∧
          ∀ counter ∈ summary.counters, isFinite counter.rate = true ∧ 0.0 ≤ counter.rate := by
  have hempty : Registry.empty.Sound := ⟨[], rfl, fun _ hmem => absurd hmem List.not_mem_nil⟩
  rcases sound_jobs serve hserve jobs hfits (server, Registry.empty) hempty
    with ⟨⟨after, registry⟩, hrun, hsound⟩
  have hnow : Span.zero.Measured := by
    unfold Span.Measured
    decide
  exact ⟨after, registry, hrun, (registry.summarised hsound [] .zero hnow).1,
    fun scenarios elapsed helapsed => (registry.summarised hsound scenarios elapsed helapsed).2⟩

/-- The longest span that a clock can measure. -/
def longest : Span := ⟨0x10000000000000000 * 1000000000 - 1⟩

/-- A server that replies as late as a clock can measure. -/
def latest : Nat → Exchange := fun _ => ⟨none, none, longest⟩

/-- Two flows with the latest replies there can be, over HTTP and not, in no time. -/
theorem runJobs_summarised_latest :
    (∀ server url, (Sweep.answering latest server url).1.duration.Measured) ∧
    lastDay.Fits newYear ∧ lastMonth.Fits newYear ∧
    ∃ after registry summary,
      runJobs (Sweep.answering latest) [⟨Sweep.localConfig, lastDay, newYear, true⟩,
        ⟨Sweep.localConfig, lastMonth, newYear, false⟩] (0, Registry.empty)
          = .ok (after, registry) ∧
      Summary.collect registry [] .zero = .ok summary ∧
      ∀ counter ∈ summary.counters, isFinite counter.rate = true ∧ 0.0 ≤ counter.rate := by
  have hlongest : longest.Measured := by
    unfold Span.Measured
    decide
  have hserve : ∀ server url, (Sweep.answering latest server url).1.duration.Measured :=
    fun _ _ => hlongest
  have hday : lastDay.Fits newYear := by
    unfold Shape.Fits
    decide
  have hmonth : lastMonth.Fits newYear := by
    unfold Shape.Fits
    decide
  have hzero : Span.zero.Measured := by
    unfold Span.Measured
    decide
  have hjobs : ∀ job ∈ [(⟨Sweep.localConfig, lastDay, newYear, true⟩ : Job),
      ⟨Sweep.localConfig, lastMonth, newYear, false⟩], job.shape.Fits job.now := by
    intro job hmem
    rcases List.mem_cons.mp hmem with rfl | hlast
    · exact hday
    · rw [List.mem_singleton.mp hlast]
      exact hmonth
  rcases runJobs_summarised (Sweep.answering latest) hserve _ hjobs 0
    with ⟨after, registry, hrun, -, hcollect⟩
  rcases hcollect [] .zero hzero with ⟨summary, hsummary, hrates⟩
  exact ⟨hserve, hday, hmonth, after, registry, summary, hrun, hsummary, hrates⟩

section Calls

open Interleaving

/-- The bound on the time of a call between two steps, and the soundness of what is due. -/
def Stage.Sound (config : Config) : Stage → Prop
  | .asking _ progress due => progress.Sound ∧ progress.pages < config.maxPages.val ∧
      ∀ operation ∈ due, operation.Sound
  | .waiting _ progress => progress.Sound ∧ progress.pages < config.maxPages.val
  | .closing _ due => ∀ operation ∈ due, operation.Sound
  | .idle => True
  | .crashed => True

/-- A reply adds a page. If that was the last one, the report of the flow is due too. -/
theorem sound_answered (job : Job) (window : Window) (progress : Sweep.Progress)
    (reply : Exchange) (hprogress : progress.Sound)
    (hpages : progress.pages < job.config.maxPages.val) (hreply : reply.duration.Measured) :
    (Stage.answered job.observe job.config job.shape window progress reply).Sound job.config := by
  have hlt := job.config.maxPages.lt
  have hsound := Sweep.sound_after progress reply hprogress (by omega) hreply
  have hsucc : (progress.after reply).pages = progress.pages + 1 := rfl
  have hpos : 1 ≤ (progress.after reply).pages := by omega
  have hexact : (progress.after reply).pages ≤ 2 ^ 53 := by omega
  by_cases hover : (progress.after reply).isOver job.config.maxPages.val = true
  · rw [answered_of_isOver job.observe job.config job.shape window progress reply hover]
    intro operation hmem
    rcases List.mem_append.mp hmem with hcalled | hreport
    · exact sound_reply job reply hreply operation hcalled
    · exact sound_report job.shape ⟨(progress.after reply).totalMs, (progress.after reply).pages⟩
        hpos hexact hsound.1 hsound.2 operation hreport
  · rw [answered_of_not_isOver job.observe job.config job.shape window progress reply hover]
    exact ⟨hsound, Sweep.pages_lt_of_not_isOver _ _ (Bool.eq_false_iff.mpr hover),
      sound_reply job reply hreply⟩

/-- A step keeps the bound and reports soundly, if its reply can be measured. -/
theorem sound_step (job : Job) (s t : Stage) (act : Act)
    (hstep : Step job.observe job.config job.shape s act t) (hs : s.Sound job.config)
    (hreply : ∀ reply, act = .take reply → reply.duration.Measured) :
    t.Sound job.config ∧ ∀ operation ∈ act.operations, operation.Sound := by
  have hnone : ∀ operation ∈ ([] : List Operation), operation.Sound :=
    fun operation hmem => absurd hmem List.not_mem_nil
  cases hstep with
  | clock now =>
      refine ⟨?_, hnone⟩
      unfold Stage.opened
      cases Window.endingAt? now 0 job.shape.days with
      | none => trivial
      | some window => exact ⟨Sweep.sound_start, job.config.maxPages.pos, hnone⟩
  | send window progress => exact ⟨⟨hs.1, hs.2.1⟩, hnone⟩
  | take window progress reply =>
      exact ⟨sound_answered job window progress reply hs.1 hs.2 (hreply reply rfl), hnone⟩
  | record window progress operation due =>
      rcases hs with ⟨hprogress, hpages, hdue⟩
      rcases List.forall_mem_cons.mp hdue with ⟨hfirst, hrest⟩
      exact ⟨⟨hprogress, hpages, hrest⟩, List.forall_mem_singleton.mpr hfirst⟩
  | recordLast result operation due =>
      rcases List.forall_mem_cons.mp hs with ⟨hfirst, hrest⟩
      exact ⟨hrest, List.forall_mem_singleton.mpr hfirst⟩

/-- Flows beside each other, in any number and any mixture of their steps, and at any
moment: the run so far can be summed up. -/
theorem calls_summarised {ι : Type} [DecidableEq ι] (jobs : ι → Job) (before : List Operation)
    (hbefore : ∀ operation ∈ before, operation.Sound) (trace : List (ι × Act))
    (world : World ι Stage)
    (hrun : Run (fun i => Step (jobs i).observe (jobs i).config (jobs i).shape) Act.operations
      (callsAtRest ι before) trace world)
    (hmeasured : ∀ i reply, (i, Act.take reply) ∈ trace → reply.duration.Measured)
    (scenarios : List RunStatistics) (elapsed : Span) (helapsed : elapsed.Measured) :
    (∀ entry ∈ world.registry.trends, ∀ x ∈ entry.2, isFinite x = true ∧ 0.0 ≤ x) ∧
    ∃ summary, Summary.collect world.registry scenarios elapsed = .ok summary ∧
      ∀ counter ∈ summary.counters, isFinite counter.rate = true ∧ 0.0 ≤ counter.rate := by
  suffices hsound : (∀ i, (world.states i).Sound (jobs i).config) ∧ world.registry.Sound from
    world.registry.summarised hsound.2 scenarios elapsed helapsed
  induction hrun with
  | nil => exact ⟨fun _ => trivial, before, rfl, hbefore⟩
  | snoc trace world i act t hrun hstep ih =>
      rcases ih fun j reply hmem => hmeasured j reply (List.mem_append_left _ hmem)
        with ⟨hstates, hregistry⟩
      rcases sound_step (jobs i) _ t act hstep (hstates i) fun reply hact =>
        hmeasured i reply (by rw [← hact]; exact List.mem_append_right _ List.mem_cons_self)
        with ⟨hnext, hreported⟩
      refine ⟨fun j => ?_, world.registry.sound_run hregistry _ hreported⟩
      -- The step changes the stage of its own call only.
      by_cases hj : j = i
      · rw [hj, after_states_self]
        exact hnext
      · rw [after_states_of_ne _ _ _ _ _ hj]
        exact hstates j

end Calls

end Flow

end PageSweep
