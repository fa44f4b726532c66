import PageSweep.Flow
import PageSweep.Proofs.Metrics.Registry
import PageSweep.Transport.Http

/-!
# The Series of Flows

Every shape has three series of its own, and they are told apart by their names. Two
shapes with different names share none of them, a trend of the time per page is never
one of the time per flow, and the series of the HTTP client are none of these.

A client that reports nothing to any series of a flow is called quiet. All that a
registry holds in such a series then comes from flows.

## Main definitions

* `Quiet`: Operations that reach no series of a flow.

## Theorems

* `series_inj`, `head_series`: Names tell shapes and kinds of series apart.
* `samplesOf_report`, `incrementsOf_report`: What the report of a flow adds to a series.
* `quiet_report`: The HTTP client is quiet.
-/

namespace PageSweep

namespace Flow

/-- Of one kind of series, shapes with different names have different ones. -/
theorem series_inj (shape other : Shape) (front back : String) :
    shape.series front back = other.series front back ↔ shape.name = other.name := by
  rw [Shape.series, Shape.series, String.append_left_inj, String.append_right_inj]

/-- Names with different first characters are different. -/
theorem ne_of_head (name other : String) (c d : Char) (hname : name.toList.head? = some c)
    (hother : other.toList.head? = some d) (hne : c ≠ d) : name ≠ other := by
  intro h
  rw [h, hother] at hname
  exact hne (Option.some.inj hname).symm

/-- The name of a series begins with what stands in front of the name of the shape. -/
theorem head_series (shape : Shape) (front back : String) (c : Char)
    (hfront : front.toList.head? = some c) :
    (shape.series front back).toList.head? = some c := by
  rw [Shape.series, String.toList_append, String.toList_append, List.append_assoc,
    List.head?_append, hfront, Option.some_or]

theorem pageTrend_ne_totalTrend (shape other : Shape) : shape.pageTrend ≠ other.totalTrend :=
  ne_of_head _ _ 'p' 'f' (head_series shape _ _ 'p' rfl) (head_series other _ _ 'f' rfl)
    (by decide)

/-- Operations that reach no series of a flow, neither those of a shape nor the check. -/
structure Quiet (operations : List Operation) : Prop where
  pages : ∀ shape : Shape, samplesOf shape.pageTrend operations = []
  totals : ∀ shape : Shape, samplesOf shape.totalTrend operations = []
  counters : ∀ shape : Shape, incrementsOf shape.pageCounter operations = []
  checks : outcomesOf statusCheck operations = []

theorem quiet_nil : Quiet [] :=
  ⟨fun _ => rfl, fun _ => rfl, fun _ => rfl, rfl⟩

theorem quiet_append (front back : List Operation) (hfront : Quiet front) (hback : Quiet back) :
    Quiet (front ++ back) := by
  refine ⟨fun shape => ?_, fun shape => ?_, fun shape => ?_, ?_⟩
  · rw [samplesOf_append, hfront.pages, hback.pages, List.append_nil]
  · rw [samplesOf_append, hfront.totals, hback.totals, List.append_nil]
  · rw [incrementsOf_append, hfront.counters, hback.counters, List.append_nil]
  · rw [outcomesOf_append, hfront.checks, hback.checks, List.append_nil]

/-- Asking for the series of a flow leaves nothing in them. -/
theorem quiet_register (shape : Shape) : Quiet (register shape) :=
  ⟨fun _ => rfl, fun _ => rfl, fun _ => rfl, rfl⟩

/-- The registry after quiet operations has nothing in the series of flows. -/
theorem quiet_run (operations : List Operation) (hquiet : Quiet operations) (shape : Shape) :
    (Registry.empty.run operations).samples shape.pageTrend = [] ∧
    (Registry.empty.run operations).samples shape.totalTrend = [] ∧
    (Registry.empty.run operations).total shape.pageCounter = 0 ∧
    (Registry.empty.run operations).tally statusCheck = Tally.zero := by
  have hempty := Registry.sorted_empty
  refine ⟨?_, ?_, ?_, ?_⟩
  · rw [Registry.samples_run _ hempty, hquiet.pages]
    rfl
  · rw [Registry.samples_run _ hempty, hquiet.totals]
    rfl
  · rw [Registry.total_run _ hempty, hquiet.counters]
    rfl
  · rw [Registry.tally_run _ hempty, hquiet.checks]
    rfl

section Report

variable (shape other : Shape) (result : Sweep.Result)

/-- The samples that a report adds to the time per page. -/
theorem samplesOf_report_page :
    samplesOf shape.pageTrend (report other result)
      = if other.name = shape.name then [result.pageAvgMs] else [] := by
  have hname : other.pageTrend = shape.pageTrend ↔ _ := series_inj other shape _ _
  have hne : other.totalTrend ≠ shape.pageTrend := (pageTrend_ne_totalTrend shape other).symm
  simp only [samplesOf, report, List.filterMap_cons, List.filterMap_nil, Operation.sample?, hname,
    if_neg hne]
  by_cases h : other.name = shape.name
  · rw [if_pos h, if_pos h]
  · rw [if_neg h, if_neg h]

/-- The samples that a report adds to the time per flow. -/
theorem samplesOf_report_total :
    samplesOf shape.totalTrend (report other result)
      = if other.name = shape.name then [result.totalMs] else [] := by
  have hname : other.totalTrend = shape.totalTrend ↔ _ := series_inj other shape _ _
  have hne := pageTrend_ne_totalTrend other shape
  simp only [samplesOf, report, List.filterMap_cons, List.filterMap_nil, Operation.sample?, hname,
    if_neg hne]
  by_cases h : other.name = shape.name
  · rw [if_pos h, if_pos h]
  · rw [if_neg h, if_neg h]

/-- What a report adds to the number of pages. -/
theorem incrementsOf_report :
    incrementsOf shape.pageCounter (report other result)
      = if other.name = shape.name then [UInt64.ofNat result.pages] else [] := by
  have hname : other.pageCounter = shape.pageCounter ↔ _ := series_inj other shape _ _
  simp only [incrementsOf, report, List.filterMap_cons, List.filterMap_nil, Operation.increment?,
    hname]
  by_cases h : other.name = shape.name
  · rw [if_pos h, if_pos h]
  · rw [if_neg h, if_neg h]

end Report

end Flow

namespace Http

theorem head_names :
    durationTrend.toList.head? = some 'h' ∧ requestCounter.toList.head? = some 'h' ∧
    failureCounter.toList.head? = some 'h' :=
  ⟨rfl, rfl, rfl⟩

/-- What the client reports about a request that got through. -/
theorem report_of_succeeded (reply : Exchange) (h : failed reply = false) :
    report reply = [.increment requestCounter 1, .add durationTrend reply.millis] := by
  rw [report, h]
  rfl

/-- What the client reports about a request that failed. -/
theorem report_of_failed (reply : Exchange) (h : failed reply = true) :
    report reply = [.increment requestCounter 1, .add durationTrend reply.millis,
      .increment failureCounter 1] := by
  rw [report, h]
  rfl

/-- What the client reports about a request reaches no series of a flow. -/
theorem quiet_report (reply : Exchange) : Flow.Quiet (report reply) := by
  rcases head_names with ⟨hduration, hrequests, hfailures⟩
  -- The names of the client begin with an `h`, those of a flow never do.
  have hpage : ∀ shape : Flow.Shape, durationTrend ≠ shape.pageTrend := fun shape =>
    Flow.ne_of_head _ _ 'h' 'p' hduration (Flow.head_series shape _ _ 'p' rfl) (by decide)
  have htotal : ∀ shape : Flow.Shape, durationTrend ≠ shape.totalTrend := fun shape =>
    Flow.ne_of_head _ _ 'h' 'f' hduration (Flow.head_series shape _ _ 'f' rfl) (by decide)
  have hrequest : ∀ shape : Flow.Shape, requestCounter ≠ shape.pageCounter := fun shape =>
    Flow.ne_of_head _ _ 'h' 'p' hrequests (Flow.head_series shape _ _ 'p' rfl) (by decide)
  have hfailure : ∀ shape : Flow.Shape, failureCounter ≠ shape.pageCounter := fun shape =>
    Flow.ne_of_head _ _ 'h' 'p' hfailures (Flow.head_series shape _ _ 'p' rfl) (by decide)
  cases h : failed reply with
  | false =>
      rw [report_of_succeeded reply h]
      refine ⟨fun shape => ?_, fun shape => ?_, fun shape => ?_, rfl⟩
      · simp [samplesOf, Operation.sample?, hpage]
      · simp [samplesOf, Operation.sample?, htotal]
      · simp [incrementsOf, Operation.increment?, hrequest]
  | true =>
      rw [report_of_failed reply h]
      refine ⟨fun shape => ?_, fun shape => ?_, fun shape => ?_, rfl⟩
      · simp [samplesOf, Operation.sample?, hpage]
      · simp [samplesOf, Operation.sample?, htotal]
      · simp [incrementsOf, Operation.increment?, hrequest, hfailure]

/-- What the client reports about a request, read as its own series. -/
theorem samplesOf_report (reply : Exchange) :
    samplesOf durationTrend (report reply) = [reply.millis] := by
  cases h : failed reply with
  | false => rw [report_of_succeeded reply h]; rfl
  | true => rw [report_of_failed reply h]; rfl

theorem incrementsOf_report_requests (reply : Exchange) :
    incrementsOf requestCounter (report reply) = [1] := by
  cases h : failed reply with
  | false => rw [report_of_succeeded reply h]; rfl
  | true => rw [report_of_failed reply h]; rfl

theorem incrementsOf_report_failures (reply : Exchange) :
    incrementsOf failureCounter (report reply) = if failed reply then [1] else [] := by
  cases h : failed reply with
  | false => rw [report_of_succeeded reply h]; rfl
  | true => rw [report_of_failed reply h]; rfl

/-- The reports of flows add nothing to the series of the client. -/
theorem samplesOf_flowReport (shape : Flow.Shape) (result : Sweep.Result) :
    samplesOf durationTrend (Flow.report shape result) = [] := by
  have hpage : shape.pageTrend ≠ durationTrend :=
    Flow.ne_of_head _ _ 'p' 'h' (Flow.head_series shape _ _ 'p' rfl) head_names.1 (by decide)
  have htotal : shape.totalTrend ≠ durationTrend :=
    Flow.ne_of_head _ _ 'f' 'h' (Flow.head_series shape _ _ 'f' rfl) head_names.1 (by decide)
  simp only [samplesOf, Flow.report, List.filterMap_cons, List.filterMap_nil, Operation.sample?,
    if_neg hpage, if_neg htotal]

theorem incrementsOf_flowReport (shape : Flow.Shape) (result : Sweep.Result) (name : String)
    (hname : name.toList.head? = some 'h') :
    incrementsOf name (Flow.report shape result) = [] := by
  have hne : shape.pageCounter ≠ name :=
    Flow.ne_of_head _ _ 'p' 'h' (Flow.head_series shape _ _ 'p' rfl) hname (by decide)
  simp only [incrementsOf, Flow.report, List.filterMap_cons, List.filterMap_nil,
    Operation.increment?, if_neg hne]

/-- A page with status 200 is no failure. -/
theorem failed_of_isOk (reply : Exchange) (h : reply.isOk = true) : failed reply = false := by
  have hstatus : reply.status = some 200 := of_decide_eq_true h
  rw [failed, hstatus]
  rfl

theorem quiet_register : Flow.Quiet register :=
  ⟨fun _ => rfl, fun _ => rfl, fun _ => rfl, rfl⟩

end Http

end PageSweep
