import PageSweep.Proofs.Flow.Series

/-!
# The Calls of the HTTP Client

Whatever happens to a request, its call returns: an exchange with the parts that arrived,
and three series that know of it. This holds for any number of calls, on a registry with
any history, because each call adds its own share to what it finds and touches nothing
else.

A request should count as failed if it got no response or one with a status of 400 or
more. The client counts every status as failed that means neither success nor
redirection, so the statuses below 200 are counted as well. One of them, 101, does end a
request. The number of failures is then too large by the number of such responses, and
it is right in every run without them.

## Main definitions

* `Delivery.status?`, `Delivery.isComplete`: How much of a response arrived.
* `Call`: A call of the client.
* `Call.run`, `runCalls`: The registry after a call, and after several.
* `Call.isRefused`, `Call.isInterim`: What should count as failed, and what does besides.
* `Grown`: What calls add to a registry.

## Theorems

* `grown_call`: A single call.
* `grown_append`: Calls after calls.
* `failed_reply`: When a call counts as failed.
* `runCalls_series`: The series after any calls, and what the calls return.
* `runCalls_switching`: A failure that should not be one.
-/

namespace PageSweep

namespace Http

/-- The status of the response, if one arrived. -/
def Delivery.status? : Delivery → Option Nat
  | .none => .none
  | .partly status => some status
  | .complete status _ => some status

/-- Whether a response arrived with all of its body. -/
def Delivery.isComplete : Delivery → Bool
  | .complete _ _ => true
  | _ => false

/-- A call of the client: what happens to its request, and how long that takes. -/
structure Call where
  delivery : Delivery
  duration : Span

namespace Call

/-- What a call returns. -/
def reply (call : Call) : Exchange :=
  exchange call.duration call.delivery

/-- The registry after a call. -/
def run (registry : Registry) (call : Call) : Registry :=
  registry.run (report call.reply)

/-- Whether a request got no response, or one with a status of 400 or more. -/
def isRefused (call : Call) : Bool :=
  match call.delivery.status? with
  | some status => 400 ≤ status
  | none => true

/-- Whether a request got a response with a status below 200. -/
def isInterim (call : Call) : Bool :=
  match call.delivery.status? with
  | some status => status < 200
  | none => false

end Call

/-- The registry after calls, one after another. -/
def runCalls (registry : Registry) (calls : List Call) : Registry :=
  calls.foldl Call.run registry

/-- What calls add to a registry: one increment and one sample each, and one increment
more for those that count as failed. Every other series stays as it was. -/
structure Grown (calls : List Call) (before after : Registry) : Prop where
  requests : after.total requestCounter
    = before.total requestCounter + UInt64.ofNat calls.length
  durations : after.samples durationTrend
    = (calls.map fun call => call.reply.millis).reverse ++ before.samples durationTrend
  failures : after.total failureCounter
    = before.total failureCounter + UInt64.ofNat (calls.countP fun call => failed call.reply)
  trends : ∀ name, name ≠ durationTrend → after.samples name = before.samples name
  counters : ∀ name, name ≠ requestCounter → name ≠ failureCounter →
    after.total name = before.total name
  checks : ∀ name, after.tally name = before.tally name

theorem grown_nil (registry : Registry) : Grown [] registry registry := by
  refine ⟨?_, rfl, ?_, fun _ _ => rfl, fun _ _ _ => rfl, fun _ => rfl⟩
  · exact (UInt64.add_zero _).symm
  · exact (UInt64.add_zero _).symm

/-- What is added first and what is added then. -/
theorem grown_append (front back : List Call) (first middle last : Registry)
    (hfront : Grown front first middle) (hback : Grown back middle last) :
    Grown (front ++ back) first last := by
  refine ⟨?_, ?_, ?_, ?_, ?_, ?_⟩
  · rw [hback.requests, hfront.requests, List.length_append, UInt64.ofNat_add, UInt64.add_assoc]
  · rw [hback.durations, hfront.durations, List.map_append, List.reverse_append,
      List.append_assoc]
  · rw [hback.failures, hfront.failures, List.countP_append, UInt64.ofNat_add, UInt64.add_assoc]
  · intro name hname
    rw [hback.trends name hname, hfront.trends name hname]
  · intro name hrequest hfailure
    rw [hback.counters name hrequest hfailure, hfront.counters name hrequest hfailure]
  · intro name
    rw [hback.checks, hfront.checks]

section Reports

variable (reply : Exchange) (name : String)

/-- A call samples no trend but its own. -/
theorem samplesOf_report_of_ne (hname : name ≠ durationTrend) :
    samplesOf name (report reply) = [] := by
  cases h : failed reply with
  | false =>
      rw [report_of_succeeded reply h]
      simp [samplesOf, Operation.sample?, hname.symm]
  | true =>
      rw [report_of_failed reply h]
      simp [samplesOf, Operation.sample?, hname.symm]

/-- A call increments no counters but its own. -/
theorem incrementsOf_report_of_ne (hrequest : name ≠ requestCounter)
    (hfailure : name ≠ failureCounter) : incrementsOf name (report reply) = [] := by
  cases h : failed reply with
  | false =>
      rw [report_of_succeeded reply h]
      simp [incrementsOf, Operation.increment?, hrequest.symm]
  | true =>
      rw [report_of_failed reply h]
      simp [incrementsOf, Operation.increment?, hrequest.symm, hfailure.symm]

/-- A call records no outcome. -/
theorem outcomesOf_report : outcomesOf name (report reply) = [] := by
  cases h : failed reply with
  | false =>
      rw [report_of_succeeded reply h]
      rfl
  | true =>
      rw [report_of_failed reply h]
      rfl

end Reports

/-- What a single call adds. -/
theorem grown_call (registry : Registry) (hsorted : registry.Sorted) (call : Call) :
    Grown [call] registry (call.run registry) := by
  unfold Call.run
  refine ⟨?_, ?_, ?_, ?_, ?_, ?_⟩
  · rw [Registry.total_run registry hsorted, incrementsOf_report_requests]
    rfl
  · rw [Registry.samples_run registry hsorted, samplesOf_report]
    rfl
  · rw [Registry.total_run registry hsorted, incrementsOf_report_failures, List.countP_singleton]
    -- There is one increment or none, and so one failure or none.
    cases failed call.reply with
    | false => rfl
    | true => rfl
  · intro name hname
    rw [Registry.samples_run registry hsorted, samplesOf_report_of_ne _ _ hname]
    rfl
  · intro name hrequest hfailure
    rw [Registry.total_run registry hsorted, incrementsOf_report_of_ne _ _ hrequest hfailure]
    exact Registry.increased_nil _
  · intro name
    rw [Registry.tally_run registry hsorted, outcomesOf_report]
    exact Registry.tallied_nil _

/-- What calls add, by induction on their number: each call finds a registry that the
calls before it have kept in order. -/
theorem grown_runCalls (registry : Registry) (hsorted : registry.Sorted) (calls : List Call) :
    Grown calls registry (runCalls registry calls) := by
  induction calls generalizing registry with
  | nil => exact grown_nil registry
  | cons call rest ih =>
      have hfirst := grown_call registry hsorted call
      have hrest := ih (call.run registry) (Registry.sorted_run registry _ hsorted)
      exact grown_append [call] rest _ _ _ hfirst hrest

/-- A call counts as failed if it should, or if its status is below 200. -/
theorem failed_reply (call : Call) :
    failed call.reply = (call.isRefused || call.isInterim) := by
  rcases call with ⟨delivery, duration⟩
  have hstatus : ∀ status,
      (!succeeds status) = (decide (400 ≤ status) || decide (status < 200)) := by
    intro status
    rw [Bool.eq_iff_iff]
    simp [succeeds]
    omega
  cases delivery with
  | none => rfl
  | partly status => exact hstatus status
  | complete status body => exact hstatus status

/-- No request does both, so the failures are counted apart. -/
theorem countP_failed (calls : List Call) :
    calls.countP (fun call => failed call.reply)
      = calls.countP Call.isRefused + calls.countP Call.isInterim := by
  have hdisjoint : ∀ call : Call, call.isRefused = true → call.isInterim = false := by
    intro call hrefused
    unfold Call.isRefused at hrefused
    unfold Call.isInterim
    cases hstatus : call.delivery.status? with
    | none => rfl
    | some status =>
        simp only [hstatus, decide_eq_true_eq] at hrefused
        exact decide_eq_false (by omega)
  induction calls with
  | nil => rfl
  | cons call rest ih =>
      rw [List.countP_cons, List.countP_cons, List.countP_cons, ih, failed_reply]
      cases hrefused : call.isRefused with
      | true =>
          rw [hdisjoint call hrefused]
          simp only [Bool.or_false, if_true, Bool.false_eq_true, if_false]
          omega
      | false =>
          simp only [Bool.false_or, Bool.false_eq_true, if_false]
          omega

/-- Any calls of the client, with any outcomes, on a registry with any history. The
number of requests grows by the number of calls, and there is one sample for each call,
the time of the exchange that it returned. The number of failures grows by the requests
that got no response or a status of 400 or more, and by those with a status below 200.
Other series stay as they were. A returned exchange has a status if and only if a
response arrived, namely the one of the response, and a body if and only if the body was
complete. -/
theorem runCalls_series (history : List Operation) (calls : List Call) :
    let before := Registry.empty.run history
    let after := runCalls before calls
    Grown calls before after ∧
    after.total failureCounter = before.total failureCounter
      + UInt64.ofNat (calls.countP Call.isRefused + calls.countP Call.isInterim) ∧
    ((∀ call ∈ calls, call.isInterim = false) →
      after.total failureCounter = before.total failureCounter
        + UInt64.ofNat (calls.countP Call.isRefused)) ∧
    ∀ call ∈ calls, call.reply.duration = call.duration ∧
      call.reply.status = call.delivery.status? ∧
      (call.reply.body.isSome = true ↔ call.delivery.isComplete = true) := by
  intro before after
  have hgrown : Grown calls before after :=
    grown_runCalls before (Registry.sorted_empty_run history) calls
  have hfailures := hgrown.failures
  rw [countP_failed] at hfailures
  refine ⟨hgrown, hfailures, fun hinterim => ?_, fun call _ => ?_⟩
  · have hnone : calls.countP Call.isInterim = 0 :=
      List.countP_eq_zero.mpr fun call hcall => Bool.eq_false_iff.mp (hinterim call hcall)
    rw [hnone, Nat.add_zero] at hfailures
    exact hfailures
  · rcases call with ⟨delivery, duration⟩
    cases delivery with
    | none => exact ⟨rfl, rfl, iff_of_false Bool.false_ne_true Bool.false_ne_true⟩
    | partly status => exact ⟨rfl, rfl, iff_of_false Bool.false_ne_true Bool.false_ne_true⟩
    | complete status body => exact ⟨rfl, rfl, iff_of_true rfl rfl⟩

/-- A request that ends with a change of protocols. -/
def switching : Call := ⟨.complete 101 ByteArray.empty, .ofMillis 1⟩

/-- It got a response, and one with a status below 400, but it counts as failed. -/
theorem runCalls_switching :
    switching.reply.status = some 101 ∧ [switching].countP Call.isRefused = 0 ∧
    (Registry.empty.run register).total failureCounter = 0 ∧
    (runCalls (Registry.empty.run register) [switching]).total failureCounter = 1 := by
  decide +kernel

end Http

end PageSweep
