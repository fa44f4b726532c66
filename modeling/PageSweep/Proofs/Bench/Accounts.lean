import Mathlib.Algebra.Order.BigOperators.Group.Finset
import PageSweep.Proofs.Bench.Users
import PageSweep.Proofs.Flow.Series

/-!
# The Accounts of a Run

When all users have stopped, the numbers in the registry fit together. Every completed
iteration left one sample in both trends of its shape, the pages of all flows are the
requests, and each request has had one outcome of the status check. If the client is
the HTTP client, its own series say the same.

Each user is settled on its own, out of what it was told. A run of any number of users
is then settled by adding up, since what a registry holds does not depend on the order
in which users reported.

## Main definitions

* `requests`, `iterations`: The requests and the completed iterations of a run.
* `Accounts`: The registry agrees with them.
* `HttpAccounts`: The series of the HTTP client do, too.

## Theorems

* `pageSamples_perm` and its likes: The series of a user that has stopped.
* `accounts_of_ended`: The accounts of a run.
* `httpAccounts_of_ended`: The accounts of a run over HTTP.
-/

namespace PageSweep

namespace Bench

open Interleaving

namespace User

section Totals

variable {observe : Exchange → List Operation} {config : Config} {shape : Flow.Shape}
variable {acts : List Act}

/-- What a user that has stopped reported, as far as it can be read in one way. -/
theorem reading_perm (h : Balanced observe config shape acts .stopped) {γ : Type}
    (reading : Operation → Option γ) :
    ((recorded acts).filterMap reading).Perm
      ((taken acts).flatMap (fun reply => (replyReports observe reply).filterMap reading)
        ++ (finished acts).flatMap fun result =>
          (Flow.report shape result).filterMap reading) := by
  have hperm := h.recorded
  simp only [due, closed, List.append_nil] at hperm
  have hread := hperm.filterMap reading
  rw [List.filterMap_append, List.filterMap_flatMap, List.filterMap_flatMap] at hread
  exact hread

/-- A reading that only sees the reports of flows. -/
theorem reading_report (h : Balanced observe config shape acts .stopped) {γ : Type}
    (reading : Operation → Option γ) (value : Sweep.Result → γ) (mine : Prop) [Decidable mine]
    (hreply : ∀ reply, (replyReports observe reply).filterMap reading = [])
    (hreport : ∀ result, (Flow.report shape result).filterMap reading
      = if mine then [value result] else []) :
    ((recorded acts).filterMap reading).Perm
      (if mine then (finished acts).map value else []) := by
  -- Nothing of what replies call for is read, so only the flows are left.
  have hnone : ((taken acts).flatMap fun reply => (replyReports observe reply).filterMap reading)
      = [] := List.flatMap_eq_nil_iff.mpr fun reply _ => hreply reply
  have hperm := reading_perm h reading
  rw [hnone, List.nil_append] at hperm
  simp only [hreport] at hperm
  by_cases hmine : mine
  · simp only [if_pos hmine] at hperm ⊢
    rw [List.map_eq_flatMap]
    exact hperm
  · simp only [if_neg hmine] at hperm ⊢
    rw [List.flatMap_eq_nil_iff.mpr fun _ _ => rfl] at hperm
    exact hperm

/-- A reading that only sees what replies call for. -/
theorem reading_reply (h : Balanced observe config shape acts .stopped) {γ : Type}
    (reading : Operation → Option γ) (values : Exchange → List γ)
    (hreply : ∀ reply, (replyReports observe reply).filterMap reading = values reply)
    (hreport : ∀ result, (Flow.report shape result).filterMap reading = []) :
    ((recorded acts).filterMap reading).Perm ((taken acts).flatMap values) := by
  -- Nothing of what flows report is read, so only the replies are left.
  have hnone : ((finished acts).flatMap fun result =>
      (Flow.report shape result).filterMap reading) = [] :=
    List.flatMap_eq_nil_iff.mpr fun result _ => hreport result
  have hperm := reading_perm h reading
  rw [hnone, List.append_nil] at hperm
  simp only [hreply] at hperm
  exact hperm

section Flows

variable (hquiet : ∀ reply, Flow.Quiet (observe reply))
variable (h : Balanced observe config shape acts .stopped) (other : Flow.Shape)
include hquiet h

/-- One sample of the time per page for each completed iteration. -/
theorem pageSamples_perm :
    (samplesOf other.pageTrend (recorded acts)).Perm
      (if shape.name = other.name then (finished acts).map Sweep.Result.pageAvgMs else []) := by
  refine reading_report h _ _ _ (fun reply => ?_) fun result =>
    Flow.samplesOf_report_page other shape result
  rw [replyReports, List.filterMap_append, ← samplesOf, (hquiet reply).pages]
  rfl

/-- One sample of the time per flow for each completed iteration. -/
theorem totalSamples_perm :
    (samplesOf other.totalTrend (recorded acts)).Perm
      (if shape.name = other.name then (finished acts).map Sweep.Result.totalMs else []) := by
  refine reading_report h _ _ _ (fun reply => ?_) fun result =>
    Flow.samplesOf_report_total other shape result
  rw [replyReports, List.filterMap_append, ← samplesOf, (hquiet reply).totals]
  rfl

/-- The number of pages for each completed iteration. -/
theorem increments_perm :
    (incrementsOf other.pageCounter (recorded acts)).Perm
      (if shape.name = other.name then
        (finished acts).map fun result => UInt64.ofNat result.pages else []) := by
  refine reading_report h _ _ _ (fun reply => ?_) fun result =>
    Flow.incrementsOf_report other shape result
  rw [replyReports, List.filterMap_append, ← incrementsOf, (hquiet reply).counters]
  rfl

omit other in
/-- One outcome of the check for each reply. -/
theorem outcomes_perm :
    (outcomesOf Flow.statusCheck (recorded acts)).Perm ((taken acts).map Exchange.isOk) := by
  rw [List.map_eq_flatMap]
  refine reading_reply h _ _ (fun reply => ?_) fun result => rfl
  rw [replyReports, List.filterMap_append, ← outcomesOf, (hquiet reply).checks]
  rfl

end Flows

section Client

variable (h : Balanced Http.report config shape acts .stopped)
include h

/-- One request counted for each reply. -/
theorem requests_perm :
    (incrementsOf Http.requestCounter (recorded acts)).Perm ((taken acts).map fun _ => 1) := by
  rw [List.map_eq_flatMap]
  refine reading_reply h _ _ (fun reply => ?_) fun result => ?_
  · rw [replyReports, List.filterMap_append, ← incrementsOf, Http.incrementsOf_report_requests]
    rfl
  · exact Http.incrementsOf_flowReport shape result _ rfl

/-- One request timed for each reply. -/
theorem durations_perm :
    (samplesOf Http.durationTrend (recorded acts)).Perm ((taken acts).map Exchange.millis) := by
  rw [List.map_eq_flatMap]
  refine reading_reply h _ _ (fun reply => ?_) fun result => ?_
  · rw [replyReports, List.filterMap_append, ← samplesOf, Http.samplesOf_report]
    rfl
  · exact Http.samplesOf_flowReport shape result

/-- One failure counted for each reply that means one. -/
theorem failures_perm :
    (incrementsOf Http.failureCounter (recorded acts)).Perm
      ((taken acts).flatMap fun reply => if Http.failed reply then [1] else []) := by
  refine reading_reply h _ _ (fun reply => ?_) fun result => ?_
  · rw [replyReports, List.filterMap_append, ← incrementsOf, Http.incrementsOf_report_failures]
    exact List.append_nil _
  · exact Http.incrementsOf_flowReport shape result _ rfl

end Client

end Totals

end User

/-- Numbers that count only for some may be compared for those. -/
theorem ite_le_ite (p : Prop) [Decidable p] (m n : Nat) (h : m ≤ n) :
    (if p then m else 0) ≤ if p then n else 0 := by
  by_cases hp : p
  · rw [if_pos hp, if_pos hp]
    exact h
  · rw [if_neg hp, if_neg hp]

variable {ι : Type}

/-- The number of requests in a run. -/
def requests (trace : List (ι × User.Act)) : Nat :=
  trace.countP fun entry => entry.2.url?.isSome

/-- The number of completed iterations of a shape in a run. -/
def iterations (shapes : ι → Flow.Shape) (trace : List (ι × User.Act)) (shape : Flow.Shape) :
    Nat :=
  trace.countP fun entry => entry.2.result?.isSome && decide ((shapes entry.1).name = shape.name)

/-- The registry agrees with the requests and the completed iterations of a run. -/
structure Accounts (maxPages requests : Nat) (iterations : Flow.Shape → Nat)
    (registry : Registry) : Prop where
  /-- Every completed iteration left a sample in both trends of its shape. -/
  pageSamples : ∀ shape ∈ shapes, (registry.samples shape.pageTrend).length = iterations shape
  totalSamples : ∀ shape ∈ shapes, (registry.samples shape.totalTrend).length = iterations shape
  /-- Every completed iteration has a page at least, and no more than the cap. -/
  iterations_le : ∀ shape ∈ shapes, iterations shape ≤ (registry.total shape.pageCounter).toNat
  pages_le : ∀ shape ∈ shapes,
    (registry.total shape.pageCounter).toNat ≤ iterations shape * maxPages
  /-- Every request is a page of one of the shapes. -/
  pages : (registry.total Flow.lastDay.pageCounter).toNat
    + (registry.total Flow.lastMonth.pageCounter).toNat = requests
  /-- Every request has had an outcome of the status check. -/
  outcomes : (registry.tally Flow.statusCheck).passes.toNat
    + (registry.tally Flow.statusCheck).fails.toNat = requests

/-- The series of the HTTP client agree with the requests of a run. -/
structure HttpAccounts (requests : Nat) (registry : Registry) : Prop where
  counted : (registry.total Http.requestCounter).toNat = requests
  timed : (registry.samples Http.durationTrend).length = requests
  /-- What failed has not passed the status check either. -/
  failed_le : (registry.total Http.failureCounter).toNat
    ≤ (registry.tally Flow.statusCheck).fails.toNat

/-- Users that have not begun yet, on a registry to which something was reported. -/
def usersAtRest (ι : Type) (before : List Operation) : Interleaving.World ι User :=
  ⟨fun _ => .between, Registry.empty.run before⟩

/-- A run of users. -/
def Runs [DecidableEq ι] (observe : Exchange → List Operation) (config : Config)
    (shapes : ι → Flow.Shape) (before : List Operation) (trace : List (ι × User.Act))
    (world : Interleaving.World ι User) : Prop :=
  Run (fun i => User.Step observe config (shapes i)) User.Act.operations (usersAtRest ι before)
    trace world

/-- A run of some users to the end: each of them has stopped, so none has crashed. -/
structure Ended [DecidableEq ι] (observe : Exchange → List Operation) (config : Config)
    (shapes : ι → Flow.Shape) (before : List Operation) (trace : List (ι × User.Act))
    (world : Interleaving.World ι User) (users : Finset ι) : Prop where
  run : Runs observe config shapes before trace world
  known : ∀ entry ∈ trace, entry.1 ∈ users
  stopped : ∀ i ∈ users, world.states i = .stopped

section Runs

open Finset

variable [DecidableEq ι] {observe : Exchange → List Operation} {config : Config}
variable {kinds : ι → Flow.Shape} {before : List Operation} {trace : List (ι × User.Act)}
variable {world : Interleaving.World ι User} {users : Finset ι}
variable (hended : Ended observe config kinds before trace world users)
include hended

theorem balanced_of_ended (i : ι) (hi : i ∈ users) :
    User.Balanced observe config (kinds i) (own i trace) .stopped := by
  have h := User.balanced_steps observe config (kinds i) _ _ (steps_own hended.run i)
  rw [hended.stopped i hi] at h
  exact h

theorem registry_of_ended :
    world.registry = (Registry.empty.run before).run (reports User.Act.operations trace) :=
  registry_run hended.run

/-- The requests of a run are the replies of its users. -/
theorem requests_eq : requests trace = ∑ i ∈ users, (User.taken (own i trace)).length := by
  -- A user that has stopped has a reply to each of its requests.
  rw [requests, countP_own users (fun _ act => act.url?.isSome) trace hended.known]
  refine sum_congr rfl fun i hi => ?_
  rw [← List.length_filterMap_eq_countP]
  exact (balanced_of_ended hended i hi).sent

/-- The replies of a user are the pages of its iterations. -/
theorem pages_eq (i : ι) (hi : i ∈ users) :
    ((User.finished (own i trace)).map Sweep.Result.pages).sum
      = (User.taken (own i trace)).length := by
  have h := (balanced_of_ended hended i hi).pages
  simp only [User.closed, User.underWay, List.append_nil, Nat.add_zero] at h
  exact h

theorem bounds_of_ended (i : ι) (hi : i ∈ users) (result : Sweep.Result)
    (hresult : result ∈ User.finished (own i trace)) :
    1 ≤ result.pages ∧ result.pages ≤ config.maxPages.val :=
  (balanced_of_ended hended i hi).bounds result (List.mem_append_left _ hresult)

/-- Every iteration has a page at least. -/
theorem length_le_pages (i : ι) (hi : i ∈ users) :
    (User.finished (own i trace)).length
      ≤ ((User.finished (own i trace)).map Sweep.Result.pages).sum := by
  have h := List.length_le_sum_of_one_le
    ((User.finished (own i trace)).map Sweep.Result.pages) fun n hn => by
      rcases List.mem_map.mp hn with ⟨result, hresult, rfl⟩
      exact (bounds_of_ended hended i hi result hresult).1
  rw [List.length_map] at h
  exact h

/-- No iteration has more pages than the cap. -/
theorem pages_le_length (i : ι) (hi : i ∈ users) :
    ((User.finished (own i trace)).map Sweep.Result.pages).sum
      ≤ (User.finished (own i trace)).length * config.maxPages.val := by
  have h := List.sum_le_card_nsmul
    ((User.finished (own i trace)).map Sweep.Result.pages) config.maxPages.val fun n hn => by
      rcases List.mem_map.mp hn with ⟨result, hresult, rfl⟩
      exact (bounds_of_ended hended i hi result hresult).2
  rw [List.length_map, smul_eq_mul] at h
  exact h

theorem iterations_eq (shape : Flow.Shape) :
    iterations kinds trace shape
      = ∑ i ∈ users, if (kinds i).name = shape.name then (User.finished (own i trace)).length
        else 0 := by
  rw [iterations, countP_own users
    (fun i act => act.result?.isSome && decide ((kinds i).name = shape.name)) trace hended.known]
  refine sum_congr rfl fun i _ => ?_
  by_cases h : (kinds i).name = shape.name
  · simp only [h, decide_true, Bool.and_true, if_true]
    exact List.length_filterMap_eq_countP.symm
  · simp only [h, decide_false, Bool.and_false, if_false, List.countP_false]
    rfl

/-- The number of samples in a trend that starts empty. -/
theorem length_samples (name : String) (hstart : (Registry.empty.run before).samples name = [])
    (count : ι → Nat)
    (hcount : ∀ i ∈ users, (samplesOf name (User.recorded (own i trace))).length = count i) :
    (world.registry.samples name).length = ∑ i ∈ users, count i := by
  have hsorted := Registry.sorted_empty_run before
  have hmeasure := measure_reports users (fun operations => (samplesOf name operations).length) rfl
    (fun front back => by rw [samplesOf_append, List.length_append]) User.Act.operations trace
    hended.known
  rw [registry_of_ended hended, Registry.samples_run _ hsorted, hstart, List.append_nil,
    List.length_reverse]
  exact hmeasure.trans (sum_congr rfl hcount)

/-- A trend in which each completed iteration of a shape left a sample. -/
theorem length_samples_flow (name : String) (shape : Flow.Shape) (value : Sweep.Result → Float)
    (hstart : (Registry.empty.run before).samples name = [])
    (hperm : ∀ i ∈ users, (samplesOf name (User.recorded (own i trace))).Perm
      (if (kinds i).name = shape.name then (User.finished (own i trace)).map value else [])) :
    (world.registry.samples name).length = iterations kinds trace shape := by
  rw [iterations_eq hended]
  refine length_samples hended name hstart _ fun i hi => ?_
  refine (hperm i hi).length_eq.trans ?_
  by_cases h : (kinds i).name = shape.name
  · rw [if_pos h, if_pos h, List.length_map]
  · rw [if_neg h, if_neg h]
    rfl

/-- A counter that starts at zero, as long as the words do not wrap. -/
theorem toNat_total (name : String) (hstart : (Registry.empty.run before).total name = 0)
    (count : ι → Nat)
    (hcount : ∀ i ∈ users,
      ((incrementsOf name (User.recorded (own i trace))).map UInt64.toNat).sum = count i)
    (hlt : ∑ i ∈ users, count i < 2 ^ 64) :
    (world.registry.total name).toNat = ∑ i ∈ users, count i := by
  have hsorted := Registry.sorted_empty_run before
  have hmeasure := measure_reports users
    (fun operations => ((incrementsOf name operations).map UInt64.toNat).sum) rfl
    (fun front back => by rw [incrementsOf_append, List.map_append, List.sum_append])
    User.Act.operations trace hended.known
  have hsum : ((incrementsOf name (reports User.Act.operations trace)).map UInt64.toNat).sum
      = ∑ i ∈ users, count i := hmeasure.trans (sum_congr rfl hcount)
  rw [registry_of_ended hended, Registry.total_run _ hsorted, hstart, Registry.increased, hsum,
    UInt64.zero_add, UInt64.toNat_ofNat_of_lt' hlt]

section Quiet

variable (hquiet : ∀ reply, Flow.Quiet (observe reply)) (hbefore : Flow.Quiet before)
include hquiet

/-- The increments of a user, in pages. -/
theorem sum_increments (shape : Flow.Shape) (i : ι) (hi : i ∈ users) :
    ((incrementsOf shape.pageCounter (User.recorded (own i trace))).map UInt64.toNat).sum
      = if (kinds i).name = shape.name then (User.taken (own i trace)).length else 0 := by
  have hperm := User.increments_perm hquiet (balanced_of_ended hended i hi) shape
  rw [(hperm.map UInt64.toNat).sum_nat]
  by_cases h : (kinds i).name = shape.name
  · -- No flow has more pages than the cap, so each increment fits its word.
    have hword : (User.finished (own i trace)).map (UInt64.toNat ∘ fun result =>
        UInt64.ofNat result.pages) = (User.finished (own i trace)).map Sweep.Result.pages := by
      refine List.map_congr_left fun result hresult => ?_
      have hle := (bounds_of_ended hended i hi result hresult).2
      have hcap := config.maxPages.lt
      exact UInt64.toNat_ofNat_of_lt' (Nat.lt_of_le_of_lt hle (Nat.lt_trans hcap (by decide)))
    rw [if_pos h, if_pos h, List.map_map, hword, pages_eq hended i hi]
  · rw [if_neg h, if_neg h]
    rfl

include hbefore

/-- The pages of a shape. -/
theorem toNat_pages (shape : Flow.Shape) (hlt : requests trace < 2 ^ 64) :
    (world.registry.total shape.pageCounter).toNat
      = ∑ i ∈ users, if (kinds i).name = shape.name then (User.taken (own i trace)).length
        else 0 := by
  refine toNat_total hended _ (Flow.quiet_run before hbefore shape).2.2.1 _
    (sum_increments hended hquiet shape) ?_
  rw [requests_eq hended] at hlt
  refine Nat.lt_of_le_of_lt (sum_le_sum fun i _ => ?_) hlt
  by_cases h : (kinds i).name = shape.name
  · rw [if_pos h]
  · rw [if_neg h]
    exact Nat.zero_le _

/-- The outcomes of the status check, passed and failed. -/
theorem outcomes_eq (hlt : requests trace < 2 ^ 64) :
    (world.registry.tally Flow.statusCheck).passes.toNat
      = ∑ i ∈ users, ((User.taken (own i trace)).map Exchange.isOk).count true ∧
    (world.registry.tally Flow.statusCheck).fails.toNat
      = ∑ i ∈ users, ((User.taken (own i trace)).map Exchange.isOk).count false := by
  have hsorted := Registry.sorted_empty_run before
  have hcount : ∀ b : Bool,
      (outcomesOf Flow.statusCheck (reports User.Act.operations trace)).count b
        = ∑ i ∈ users, ((User.taken (own i trace)).map Exchange.isOk).count b := by
    intro b
    have hmeasure := measure_reports users
      (fun operations => (outcomesOf Flow.statusCheck operations).count b) rfl
      (fun front back => by rw [outcomesOf_append, List.count_append]) User.Act.operations trace
      hended.known
    refine hmeasure.trans (sum_congr rfl fun i hi => ?_)
    exact (User.outcomes_perm hquiet (balanced_of_ended hended i hi)).count_eq b
  -- Passed or failed, there are no more outcomes than requests, so neither
  -- word wraps.
  have hbound : ∀ b : Bool,
      ∑ i ∈ users, ((User.taken (own i trace)).map Exchange.isOk).count b < 2 ^ 64 := by
    intro b
    rw [requests_eq hended] at hlt
    refine Nat.lt_of_le_of_lt (sum_le_sum fun i _ => ?_) hlt
    refine List.count_le_length.trans ?_
    rw [List.length_map]
  have hstart := (Flow.quiet_run before hbefore Flow.lastDay).2.2.2
  rw [registry_of_ended hended, Registry.tally_run _ hsorted, hstart]
  simp only [Registry.tallied, Tally.zero, hcount, UInt64.zero_add]
  exact ⟨UInt64.toNat_ofNat_of_lt' (hbound true), UInt64.toNat_ofNat_of_lt' (hbound false)⟩

/-- The registry agrees with the requests and the completed iterations of a run. -/
theorem accounts_of_ended (hkinds : ∀ i ∈ users, kinds i ∈ shapes)
    (hlt : requests trace < 2 ^ 64) :
    Accounts config.maxPages.val (requests trace) (iterations kinds trace) world.registry := by
  have hpages := toNat_pages hended hquiet hbefore
  have houtcomes := outcomes_eq hended hquiet hbefore hlt
  refine ⟨fun shape _ => ?_, fun shape _ => ?_, fun shape _ => ?_, fun shape _ => ?_, ?_, ?_⟩
  · -- Each completed iteration of the shape left one sample in each trend.
    exact length_samples_flow hended _ shape _ (Flow.quiet_run before hbefore shape).1
      fun i hi => User.pageSamples_perm hquiet (balanced_of_ended hended i hi) shape
  · exact length_samples_flow hended _ shape _ (Flow.quiet_run before hbefore shape).2.1
      fun i hi => User.totalSamples_perm hquiet (balanced_of_ended hended i hi) shape
  · rw [hpages shape hlt, iterations_eq hended]
    refine sum_le_sum fun i hi => ite_le_ite _ _ _ ?_
    rw [← pages_eq hended i hi]
    exact length_le_pages hended i hi
  · rw [hpages shape hlt, iterations_eq hended, sum_mul]
    refine sum_le_sum fun i hi => ?_
    rw [ite_mul, Nat.zero_mul]
    refine ite_le_ite _ _ _ ?_
    rw [← pages_eq hended i hi]
    exact pages_le_length hended i hi
  · -- A user runs one of the two shapes, so its pages count once.
    rw [hpages _ hlt, hpages _ hlt, requests_eq hended, ← sum_add_distrib]
    refine sum_congr rfl fun i hi => ?_
    rcases List.mem_cons.mp (hkinds i hi) with h | h
    · rw [h, if_pos rfl, if_neg (by decide), Nat.add_zero]
    · rw [List.mem_singleton.mp h, if_neg (by decide), if_pos rfl, Nat.zero_add]
  · -- Each reply has one outcome, which is one of the two.
    rw [houtcomes.1, houtcomes.2, requests_eq hended, ← sum_add_distrib]
    refine sum_congr rfl fun i _ => ?_
    rw [List.count_true_add_count_false, List.length_map]

end Quiet

end Runs

section Client

open Finset

variable [DecidableEq ι] {config : Config} {kinds : ι → Flow.Shape} {before : List Operation}
variable {trace : List (ι × User.Act)} {world : Interleaving.World ι User} {users : Finset ι}

theorem sum_failures (replies : List Exchange) :
    ((replies.flatMap fun reply => if Http.failed reply then [(1 : UInt64)] else []).map
      UInt64.toNat).sum = replies.countP Http.failed := by
  induction replies with
  | nil => rfl
  | cons reply rest ih =>
      rw [List.flatMap_cons, List.map_append, List.sum_append, ih, List.countP_cons]
      cases Http.failed reply with
      | true => exact Nat.add_comm _ _
      | false => exact Nat.zero_add _

/-- A failed request has not passed the check, so it counts there at least. -/
theorem countP_failed_le (replies : List Exchange) :
    replies.countP Http.failed ≤ (replies.map Exchange.isOk).count false := by
  rw [List.count, List.countP_map]
  refine List.countP_mono_left fun reply _ hreply => ?_
  have hnot : reply.isOk = false := by
    refine Bool.eq_false_iff.mpr fun hok => ?_
    rw [Http.failed_of_isOk reply hok] at hreply
    exact Bool.false_ne_true hreply
  rw [Function.comp_apply, hnot]
  rfl

/-- Over HTTP, the series of the client agree with the requests as well. -/
theorem httpAccounts_of_ended (hended : Ended Http.report config kinds before trace world users)
    (hbefore : Flow.Quiet before)
    (hrequests : (Registry.empty.run before).total Http.requestCounter = 0)
    (hfailures : (Registry.empty.run before).total Http.failureCounter = 0)
    (hdurations : (Registry.empty.run before).samples Http.durationTrend = [])
    (hlt : requests trace < 2 ^ 64) : HttpAccounts (requests trace) world.registry := by
  -- Every increment is one.
  have hcount : ∀ i ∈ users, ((incrementsOf Http.requestCounter
      (User.recorded (own i trace))).map UInt64.toNat).sum = (User.taken (own i trace)).length := by
    intro i hi
    have hperm := User.requests_perm (balanced_of_ended hended i hi)
    rw [(hperm.map UInt64.toNat).sum_nat, List.map_const', List.map_replicate, List.sum_replicate]
    exact Nat.mul_one _
  have hfailed : ∀ i ∈ users, ((incrementsOf Http.failureCounter
      (User.recorded (own i trace))).map UInt64.toNat).sum
        = (User.taken (own i trace)).countP Http.failed := by
    intro i hi
    have hperm := User.failures_perm (balanced_of_ended hended i hi)
    rw [(hperm.map UInt64.toNat).sum_nat, sum_failures]
  have hsum := requests_eq hended
  have houtcomes := outcomes_eq hended Http.quiet_report hbefore hlt
  refine ⟨?_, ?_, ?_⟩
  · rw [toNat_total hended _ hrequests _ hcount (by rw [← hsum]; exact hlt), hsum]
  · rw [length_samples hended _ hdurations _ fun i hi =>
      (User.durations_perm (balanced_of_ended hended i hi)).length_eq, hsum]
    simp only [List.length_map]
  · have hbound : ∑ i ∈ users, (User.taken (own i trace)).countP Http.failed < 2 ^ 64 := by
      rw [hsum] at hlt
      exact Nat.lt_of_le_of_lt (sum_le_sum fun i _ => List.countP_le_length) hlt
    rw [toNat_total hended _ hfailures _ hfailed hbound, houtcomes.2]
    exact sum_le_sum fun i _ => countP_failed_le _

end Client

end Bench

end PageSweep
