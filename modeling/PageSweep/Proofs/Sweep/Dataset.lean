import Mathlib.Algebra.Ring.Nat
import Mathlib.Data.List.Basic
import PageSweep.Proofs.Service.Delivery
import PageSweep.Proofs.Sweep.Unrolled

/-!
# Sweeps of the Whole Data Set

A sweep and the service agree on what a page is. The sweep only ever repeats the
cursor that it was given, the service only ever hands out the number of the event
after the page, and so the pages follow one another through the events of the
service: none is left out and none comes twice.

The induction is on the number of pages. After `i` pages the sweep is at the cursor
of event `i * size`, as long as there is such an event, and the service has recorded
the requests of the pages before it. Both sides may cut a page short: the service
serves at most a thousand events whatever the request asks for, and the sweep stops
at its page cap whatever the service still has.

## Main definitions

* `pageSize`: How many events a full page has.
* `datasetPages`: How many pages a sweep of a data set has.
* `datasetQuery`, `datasetPage`: What request `i` asks for, and its page.
* `Pageable`: A service that pages through its events.
* `Midway`: A sweep of a data set between two requests.

## Theorems

* `midway_advance`: The invariant is kept by a request.
* `isOver_of_midway`: When a sweep of a data set is over.
* `flatMap_range'`: The pages put together are the data set.
* `run_dataset`: A whole sweep of a data set.
-/

namespace PageSweep

namespace Sweep

/-- How many events a full page has. -/
def pageSize (config : Config) : Nat :=
  min config.limit.val 1000

/-- How many pages a sweep of a data set has: even an empty one has a page. -/
def datasetPages (config : Config) (total : Nat) : Nat :=
  min config.maxPages.val (max 1 ((total + pageSize config - 1) / pageSize config))

/-- The cursor of event `i * size`, unless it is the first one or there is none. -/
def datasetCursor (size total i : Nat) : Option String :=
  if 0 < i ∧ i * size < total then some (Service.encodeCursor (UInt64.ofNat (i * size)))
  else none

/-- What request `i` asks for. -/
def datasetQuery (config : Config) (window : Window) (total i : Nat) : Page.Query :=
  ⟨config.limit, window, datasetCursor (pageSize config) total i⟩

/-- The page that request `i` gets. -/
def datasetPage (config : Config) (window : Window) (total i : Nat) : Service.EventPage :=
  Service.pageFrom total (i * pageSize config) (pageSize config) window.stop

/-- A service that pages through its events without a rate limit. No page of it reaches
beyond the words, and its status lets a response have a body. -/
structure Pageable (c : Service.Config) : Prop where
  mode : c.mode = .paged
  rate : c.maxRate = none
  total : c.totalEvents.toNat ≤ 2 ^ 64 - 1 - 1000
  status : Service.MayCarryBody (c.statusOverride.getD 200)

/-- A sweep of a data set after `i` pages. -/
structure Midway (config : Config) (window : Window) (c : Service.Config) (i : Nat)
    (s : Progress × Service) : Prop where
  cursor : s.1.cursor = datasetCursor (pageSize config) c.totalEvents.toNat i
  server : s.2.config = c
  requests : s.2.requests
    = (List.range i).map fun j =>
      Service.recordOf (datasetQuery config window c.totalEvents.toNat j)

theorem pageSize_pos (config : Config) : 0 < pageSize config :=
  Nat.lt_min.mpr ⟨config.limit.pos, by decide⟩

theorem pageSize_le (config : Config) : pageSize config ≤ 1000 :=
  Nat.min_le_right _ _

section Steps

variable (serve : Service → Url → Exchange × Service) (check : String) (config : Config)
variable (window : Window) (c : Service.Config)

/-- The event at which the service begins the page of request `i`. -/
theorem offset?_datasetQuery (total i : Nat) (hi : i = 0 ∨ i * pageSize config < total) :
    Service.offset? (datasetQuery config window total i).cursor
      = some (UInt64.ofNat (i * pageSize config)) := by
  -- Without a cursor the service begins at the first event.
  rcases Nat.eq_zero_or_pos i with rfl | hpos
  · rw [Nat.zero_mul]
    rfl
  · have hlt : i * pageSize config < total := hi.resolve_left (by omega)
    have hcursor : (datasetQuery config window total i).cursor
        = some (Service.encodeCursor (UInt64.ofNat (i * pageSize config))) := if_pos ⟨hpos, hlt⟩
    rw [hcursor, Service.offset?, Service.decodeCursor?_encodeCursor]
    intro hempty
    exact Service.encodeCursor_ne_empty _ hempty

/-- The cursor in the page of request `i` is that of request `i + 1`. -/
theorem nextCursor_datasetPage (total i : Nat) :
    Page.nextCursor (some (datasetPage config window total i).json.text.toUTF8)
      = datasetCursor (pageSize config) total (i + 1) := by
  have hnext : (i + 1) * pageSize config = i * pageSize config + pageSize config :=
    Nat.succ_mul _ _
  rw [Service.nextCursor_body, datasetCursor, hnext]
  simp only [datasetPage, Service.pageFrom]
  -- The service sends a cursor just when there are events left, and the sweep
  -- takes a cursor just when one is sent.
  by_cases h : i * pageSize config + pageSize config < total
  · have hne := Service.encodeCursor_ne_empty
      (UInt64.ofNat (i * pageSize config + pageSize config))
    simp only [h, if_true, decide_true, Bool.true_and, bne_iff_ne, ne_eq, hne, not_false_eq_true,
      Nat.succ_pos, and_true]
  · simp only [h, decide_false, Bool.false_and, Bool.false_eq_true, if_false, and_false]

/-- The reply to request `i`, and what the service has recorded after it. -/
theorem visit_of_midway (hserve : Service.Delivers serve config.eventsUrl) (hc : Pageable c)
    (i : Nat) (hi : i = 0 ∨ i * pageSize config < c.totalEvents.toNat) (s : Progress × Service)
    (hs : Midway config window c i s) :
    let visit := nextVisit serve check config window s
    let query := datasetQuery config window c.totalEvents.toNat i
    visit.reply.status = some (c.statusOverride.getD 200) ∧
    visit.reply.body = some (datasetPage config window c.totalEvents.toNat i).json.text.toUTF8 ∧
    visit.reported = [.record check (some (c.statusOverride.getD 200) = some 200)] ∧
    (advance serve config window s).2
      = { s.2 with recorded := Service.recordOf query :: s.2.recorded } := by
  have hquery : s.1.query config.limit window
      = datasetQuery config window c.totalEvents.toNat i := by
    rw [Progress.query_eq, hs.cursor]
    rfl
  -- The URL carries the query in its written form, which the service reads back.
  have hrequest : s.1.request config window = config.eventsUrl.withQuery (some (String.ofList
      (Form.encode (datasetQuery config window c.totalEvents.toNat i).pairs))) := by
    rw [Progress.request, hquery, url_eventsUrl]
  have hsize := pageSize_le config
  have htotal := hc.total
  -- The page begins within the data, or at its start if there is none.
  have hstart : i * pageSize config ≤ c.totalEvents.toNat := by
    rcases hi with rfl | hlt
    · omega
    · omega
  have hconfig := hs.server
  rcases Service.receive_page s.2 (datasetQuery config window c.totalEvents.toNat i)
    (i * pageSize config) (pageSize config) (by rw [hconfig, hc.mode]) (by rw [hconfig, hc.rate])
    (offset?_datasetQuery config window _ i hi) (by rw [hconfig]; exact hstart) rfl (by omega)
    with ⟨answer, hanswer, hstatus, hbody, hserver⟩
  rw [hconfig] at hstatus hbody
  have hreply : (serve s.2 (s.1.request config window)).1.status
      = some (c.statusOverride.getD 200) := by
    rw [hrequest, hserve.status _ _ answer hanswer, hstatus]
  refine ⟨hreply, ?_, ?_, ?_⟩
  · rw [nextVisit, hrequest,
      hserve.body _ _ answer hanswer (by rw [hstatus]; exact hc.status), hbody]
    rfl
  · rw [nextVisit, Progress.take, Exchange.isOk, hreply]
  · rw [← hserver, advance, hrequest, ← hserve.server]

/-- A request keeps the invariant. -/
theorem midway_advance (hserve : Service.Delivers serve config.eventsUrl) (hc : Pageable c)
    (i : Nat) (hi : i = 0 ∨ i * pageSize config < c.totalEvents.toNat) (s : Progress × Service)
    (hs : Midway config window c i s) :
    Midway config window c (i + 1) (advance serve config window s) := by
  -- What is reported does not matter for what comes next, so any check does.
  rcases visit_of_midway serve "" config window c hserve hc i hi s hs
    with ⟨-, hbody, -, hserver⟩
  refine ⟨?_, ?_, ?_⟩
  · rw [← nextCursor_datasetPage config window, ← hbody]
    rfl
  · rw [hserver]
    exact hs.server
  · rw [hserver, Service.requests, List.reverse_cons, List.range_succ, List.map_append]
    exact congrArg (· ++ _) hs.requests

/-- The invariant holds as long as there were events for every page. -/
theorem midway_stateAt (around : Service.Surroundings)
    (hserve : Service.Delivers serve config.eventsUrl) (hc : Pageable c) (i : Nat)
    (hi : ∀ j < i, j = 0 ∨ j * pageSize config < c.totalEvents.toNat) :
    Midway config window c i (stateAt serve config window (Service.start c around) i) := by
  induction i with
  | zero => exact ⟨rfl, rfl, rfl⟩
  | succ i ih =>
      rw [stateAt_succ]
      exact midway_advance serve config window c hserve hc i (hi i (by omega)) _
        (ih fun j hj => hi j (by omega))

end Steps

/-- Page `i` is followed by another one if there are events for it. -/
theorem lt_pages_iff (total size i : Nat) (hsize : 0 < size) :
    i < (total + size - 1) / size ↔ i * size < total := by
  have hdiv : i + 1 ≤ (total + size - 1) / size ↔ (i + 1) * size ≤ total + size - 1 :=
    Nat.le_div_iff_mul_le hsize
  have hnext : (i + 1) * size = i * size + size := Nat.succ_mul _ _
  omega

/-- There are events for every page of a sweep. -/
theorem events_of_lt (config : Config) (total i : Nat) (hi : i < datasetPages config total) :
    i = 0 ∨ i * pageSize config < total := by
  have h := (Nat.lt_min.mp hi).2
  rw [← lt_pages_iff total (pageSize config) i (pageSize_pos config)]
  omega

/-- A sweep of a data set is over at the page cap, or when there are no events for
another page. -/
theorem isOver_of_midway (config : Config) (window : Window) (c : Service.Config) (i : Nat)
    (s : Progress × Service) (hpages : s.1.pages = i) (hs : Midway config window c i s) :
    s.1.isOver config.maxPages.val = true ↔
      config.maxPages.val ≤ i ∨ 0 < i ∧ c.totalEvents.toNat ≤ i * pageSize config := by
  rw [Progress.isOver, Bool.or_eq_true, Bool.and_eq_true, decide_eq_true_iff, decide_eq_true_iff,
    Option.isNone_iff_eq_none, hpages, hs.cursor, datasetCursor]
  refine or_congr Iff.rfl (and_congr_right fun hpos => ?_)
  simp only [hpos, true_and, ite_eq_right_iff, reduceCtorEq, imp_false, Nat.not_lt]

/-- The pages put together are the data set, as far as they reach. -/
theorem flatMap_range' (total size n : Nat) :
    ((List.range n).flatMap fun i =>
        List.range' (i * size) (min (i * size + size) total - i * size))
      = List.range (min total (n * size)) := by
  induction n with
  | zero =>
      rw [Nat.zero_mul, Nat.min_zero]
      rfl
  | succ n ih =>
      have hnext : (n + 1) * size = n * size + size := Nat.succ_mul _ _
      rw [List.range_succ, List.flatMap_append, ih, List.flatMap_singleton, hnext,
        List.range_eq_range', List.range_eq_range']
      by_cases h : n * size ≤ total
      · -- The page begins where the ones before it end.
        rw [Nat.min_eq_right h]
        have hsum : min total (n * size + size)
            = n * size + (min (n * size + size) total - n * size) := by omega
        rw [hsum, ← List.range'_append_1, Nat.zero_add]
      · -- The data set ended before.
        have hnone : min (n * size + size) total - n * size = 0 := by omega
        rw [hnone, List.range'_zero, List.append_nil, Nat.min_eq_left (by omega),
          Nat.min_eq_left (by omega)]

/-- The events of a page. -/
theorem eventIds_datasetPage (config : Config) (window : Window) (total i : Nat) :
    Page.eventIds (some (datasetPage config window total i).json.text.toUTF8)
      = (List.range' (i * pageSize config) (min (i * pageSize config + pageSize config) total
          - i * pageSize config)).map fun n => "evt-" ++ toString n := by
  rw [Service.eventIds_body, datasetPage, Service.pageFrom, List.map_map]
  rfl

/-- How many pages a sweep of a data set has. -/
theorem run_pageable (serve : Service → Url → Exchange × Service) (check : String)
    (config : Config) (window : Window) (c : Service.Config) (around : Service.Surroundings)
    (hserve : Service.Delivers serve config.eventsUrl) (hc : Pageable c) :
    let pages := datasetPages config c.totalEvents.toNat
    run serve check config window (Service.start c around)
      = ⟨(List.range pages).map fun i =>
          nextVisit serve check config window
            (stateAt serve config window (Service.start c around) i),
        ⟨(stateAt serve config window (Service.start c around) pages).1.totalMs, pages⟩,
        (stateAt serve config window (Service.start c around) pages).2⟩ := by
  have hsize := pageSize_pos config
  -- Up to the last page there are events for every page, so the invariant holds.
  have hmidway : ∀ i ≤ datasetPages config c.totalEvents.toNat,
      Midway config window c i (stateAt serve config window (Service.start c around) i) :=
    fun i hi => midway_stateAt serve config window c around hserve hc i
      fun j hj => events_of_lt config _ j (by omega)
  have hpages := pages_stateAt serve config window (Service.start c around)
  refine run_eq_of_isOver serve check config window (Service.start c around) _ ?_ fun i hi => ?_
  · -- At the last page: it is the one of the cap, or no events are left after it.
    rw [isOver_of_midway config window c _ _ (hpages _) (hmidway _ (Nat.le_refl _))]
    have hlast := lt_pages_iff c.totalEvents.toNat (pageSize config)
      (max 1 ((c.totalEvents.toNat + pageSize config - 1) / pageSize config)) hsize
    rw [datasetPages]
    by_cases hcap : config.maxPages.val
        ≤ max 1 ((c.totalEvents.toNat + pageSize config - 1) / pageSize config)
    · rw [Nat.min_eq_left hcap]
      exact Or.inl (Nat.le_refl _)
    · rw [Nat.min_eq_right (by omega)]
      refine Or.inr ⟨by omega, ?_⟩
      by_contra hmore
      have h := hlast.mpr (by omega)
      omega
  · -- Before it: there is room below the cap, and there are events.
    rw [← Bool.not_eq_true, isOver_of_midway config window c _ _ (hpages i) (hmidway i (by omega))]
    have hcap := (Nat.lt_min.mp hi).1
    rcases events_of_lt config _ i hi with h | h
    · omega
    · omega

/-- A sweep of a data set fetches every page once and in order, up to the page cap:
no event is left out and none comes twice. Every request asks for the same page size
and the same window, the first one without a cursor. The check is told of every page that
it came with status 200 if the service sends that, and that it did not if it sends another
one. -/
theorem run_dataset (serve : Service → Url → Exchange × Service) (check : String)
    (config : Config) (window : Window) (total : UInt64) (override : Option Nat)
    (delayMs jitterMs : Nat) (around : Service.Surroundings)
    (hserve : Service.Delivers serve config.eventsUrl)
    (htotal : total.toNat ≤ 2 ^ 64 - 1 - 1000)
    (hoverride : ∀ status ∈ override, Service.MayCarryBody status) :
    let log := run serve check config window
      (Service.start ⟨total, .paged, override, none, delayMs, jitterMs⟩ around)
    let size := min config.limit.val 1000
    let pages := min config.maxPages.val (max 1 ((total.toNat + size - 1) / size))
    log.result.pages = pages ∧
    log.visits.length = pages ∧
    (log.visits.flatMap fun v => Page.eventIds v.reply.body)
      = (List.range (min total.toNat (pages * size))).map (fun n => "evt-" ++ toString n) ∧
    log.server.requests.length = pages ∧
    (∀ request ∈ log.server.requests,
      request.query.limit = some (UInt64.ofNat config.limit.val) ∧
      request.query.timeFrom = some window.start ∧ request.query.timeTo = some window.stop) ∧
    (∃ first, log.server.requests.head? = some first ∧ first.query.cursor = none) ∧
    ∀ v ∈ log.visits, v.reported = [.record check (override = none ∨ override = some 200)] := by
  intro log size pages
  let c : Service.Config := ⟨total, .paged, override, none, delayMs, jitterMs⟩
  have hc : Pageable c := by
    refine ⟨rfl, rfl, htotal, ?_⟩
    cases override with
    | none => exact Service.mayCarryBody_ok
    | some status => exact hoverride status rfl
  have hlog : log = _ := run_pageable serve check config window c around hserve hc
  have hmidway : ∀ i ≤ pages,
      Midway config window c i (stateAt serve config window (Service.start c around) i) :=
    fun i hi => midway_stateAt serve config window c around hserve hc i
      fun j hj => events_of_lt config _ j (Nat.lt_of_lt_of_le hj hi)
  have hvisit := fun i (hi : i < pages) => visit_of_midway serve check config window c hserve hc i
    (events_of_lt config _ i hi) _ (hmidway i (Nat.le_of_lt hi))
  have hrequests : log.server.requests = (List.range pages).map fun i =>
      Service.recordOf (datasetQuery config window total.toNat i) := by
    rw [hlog]
    exact (hmidway pages (Nat.le_refl _)).requests
  have hfirst : 0 < pages := Nat.lt_min.mpr ⟨config.maxPages.pos, by omega⟩
  refine ⟨?_, ?_, ?_, ?_, fun request hrequest => ?_, ?_, fun v hv => ?_⟩
  · rw [hlog]
    rfl
  · rw [hlog, List.length_map, List.length_range]
    rfl
  · -- Each page has the events of its own range, and the ranges are adjacent.
    have hbodies : (log.visits.flatMap fun v => Page.eventIds v.reply.body)
        = (List.range pages).flatMap fun i => (List.range' (i * size)
          (min (i * size + size) total.toNat - i * size)).map fun n => "evt-" ++ toString n := by
      rw [hlog, List.flatMap_map]
      refine List.flatMap_congr fun i hi => ?_
      rw [(hvisit i (List.mem_range.mp hi)).2.1, eventIds_datasetPage]
      rfl
    rw [hbodies, ← List.map_flatMap, flatMap_range']
  · rw [hrequests, List.length_map, List.length_range]
  · rw [hrequests] at hrequest
    rcases List.mem_map.mp hrequest with ⟨i, -, rfl⟩
    exact ⟨rfl, rfl, rfl⟩
  · refine ⟨Service.recordOf (datasetQuery config window total.toNat 0), ?_, rfl⟩
    rw [hrequests, List.head?_map, List.head?_range, if_neg (by omega), Option.map_some]
  · rw [hlog] at hv
    rcases List.mem_map.mp hv with ⟨i, hi, rfl⟩
    rw [(hvisit i (List.mem_range.mp hi)).2.2.1]
    refine congrArg (fun passed => [Operation.record check passed]) (decide_eq_decide.mpr ?_)
    cases override with
    | none => exact iff_of_true rfl (Or.inl rfl)
    | some status => simp only [c, Option.getD_some, reduceCtorEq, false_or]

theorem delivers_localConfig : Service.Delivers (Service.serveOver .up) localConfig.eventsUrl :=
  Service.delivers_serveOver _ (by decide)

/-- Seven events over HTTP, with every page an error: three pages. -/
theorem run_dataset_seven :
    let log := run (Service.serveOver .up) "200" localConfig
      ⟨"2026-01-01T00:00:00Z", "now & then"⟩
      (Service.start ⟨7, .paged, some 500, none, 20, 0⟩ ⟨fun _ _ => true, fun mean _ _ => mean⟩)
    log.visits.length = 3 ∧
    (log.visits.flatMap fun v => Page.eventIds v.reply.body)
      = ["evt-0", "evt-1", "evt-2", "evt-3", "evt-4", "evt-5", "evt-6"] ∧
    ∀ v ∈ log.visits, v.reported = [.record "200" false] := by
  have hoverride : ∀ status ∈ some 500, Service.MayCarryBody status := by
    rintro status ⟨⟩
    exact ⟨by decide, by decide⟩
  rcases run_dataset (Service.serveOver .up) "200" localConfig
    ⟨"2026-01-01T00:00:00Z", "now & then"⟩ 7 (some 500) 20 0
    ⟨fun _ _ => true, fun mean _ _ => mean⟩ delivers_localConfig (by decide) hoverride
    with ⟨-, hlength, hids, -, -, -, hcheck⟩
  exact ⟨hlength, hids, hcheck⟩

end Sweep

end PageSweep
