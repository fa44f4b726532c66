import Mathlib.Data.Nat.Find
import Mathlib.Logic.Function.Iterate
import PageSweep.Sweep

/-!
# Sweeps Unrolled

A sweep is a loop with two exits, a counter that runs down and a server that it
carries along. Unrolled, it is one step taken over and over: `advance` makes the next
request and takes the reply. A sweep ends at the first state that is over, and its
log is what the states before it did.

This is what every statement about a whole sweep starts from. It replaces the loop
by a sequence of states, about which an invariant can be proved by induction on the
number of pages.

## Main definitions

* `Progress.request`: The URL of the next request.
* `advance`: A sweep and its server after one more page.
* `stateAt`: The sweep and its server after a number of pages.
* `localConfig`: A small configuration, for examples.

## Theorems

* `Progress.query_eq`: What the next request asks for.
* `pages_stateAt`: After `i` pages, `i` pages are counted.
* `isOver_of_le`: Every sweep is over at the page cap.
* `run_eq_of_isOver`: A sweep is its steps up to the first state that is over.
* `exists_run_eq`: Every sweep comes to such a state, after a page at least.
* `reported_of_mem_visits`: What is reported of a page.
* `pages_of_nextCursor_eq_none`: A page without a cursor is the last one.
-/

namespace PageSweep

namespace Sweep

variable {σ : Type}

/-- The URL of the next request. -/
def Progress.request (p : Progress) (config : Config) (window : Window) : Url :=
  (p.query config.limit window).url config.eventsUrl

/-- The next request goes on at the cursor of the last reply, if there is one. -/
theorem Progress.query_eq (p : Progress) (limit : PageCount) (window : Window) :
    p.query limit window = ⟨limit, window, p.cursor⟩ := by
  rcases p with ⟨pages, totalMs, _ | cursor⟩
  · rfl
  · rfl

/-- The endpoint has no query of its own, so the query of a request is all that it
asks for. -/
theorem url_eventsUrl (config : Config) (query : Page.Query) :
    query.url config.eventsUrl
      = config.eventsUrl.withQuery (some (String.ofList (Form.encode query.pairs))) :=
  rfl

/-- A sweep and its server after one more page. -/
def advance (serve : σ → Url → Exchange × σ) (config : Config) (window : Window)
    (s : Progress × σ) : Progress × σ :=
  let (reply, server) := serve s.2 (s.1.request config window)
  (s.1.after reply, server)

/-- The next request with its reply and what is reported of it. -/
def nextVisit (serve : σ → Url → Exchange × σ) (check : String) (config : Config)
    (window : Window) (s : Progress × σ) : Visit :=
  let reply := (serve s.2 (s.1.request config window)).1
  ⟨s.1.request config window, reply, (s.1.take check reply).2⟩

/-- The sweep and its server after `i` pages. -/
def stateAt (serve : σ → Url → Exchange × σ) (config : Config) (window : Window) (server : σ)
    (i : Nat) : Progress × σ :=
  (advance serve config window)^[i] (.start, server)

section Steps

variable (serve : σ → Url → Exchange × σ) (check : String) (config : Config) (window : Window)

theorem stateAt_succ (server : σ) (i : Nat) :
    stateAt serve config window server (i + 1)
      = advance serve config window (stateAt serve config window server i) :=
  Function.iterate_succ_apply' _ _ _

theorem pages_stateAt (server : σ) (i : Nat) :
    (stateAt serve config window server i).1.pages = i := by
  induction i with
  | zero => rfl
  | succ i ih =>
      rw [stateAt_succ]
      exact congrArg (· + 1) ih

/-- A sweep is over at the page cap, whatever was replied. -/
theorem isOver_of_le (p : Progress) (maxPages : Nat) (h : maxPages ≤ p.pages) :
    p.isOver maxPages = true := by
  rw [Progress.isOver, decide_eq_true h, Bool.true_or]

/-- A sweep is not over before its first request. -/
theorem isOver_start : Progress.start.isOver config.maxPages.val = false := by
  have hcap : ¬ (config.maxPages.val ≤ 0) := Nat.not_le.mpr config.maxPages.pos
  rw [Progress.isOver, Progress.start, decide_eq_false hcap, decide_eq_false (Nat.lt_irrefl 0)]
  rfl

/-- A state that is not over lies before the page cap. -/
theorem pages_lt_of_not_isOver (p : Progress) (maxPages : Nat)
    (h : p.isOver maxPages = false) : p.pages < maxPages := by
  rw [Progress.isOver, Bool.or_eq_false_iff] at h
  exact Nat.not_le.mp (of_decide_eq_false h.1)

/-- A loop that is entered when the sweep is over returns what it was given. -/
theorem loop_of_isOver (left : Nat) (p : Progress) (visits : List Visit) (server : σ)
    (h : p.isOver config.maxPages.val = true) :
    loop serve check config window left p visits server
      = ⟨visits.reverse, ⟨p.totalMs, p.pages⟩, server⟩ := by
  cases left with
  | zero => rw [loop]
  | succ left => rw [loop, if_pos h]

/-- A loop takes the steps up to the first state that is over. -/
theorem loop_eq_of_isOver (n left : Nat) (s : Progress × σ) (visits : List Visit) (hleft : n ≤ left)
    (hover : ((advance serve config window)^[n] s).1.isOver config.maxPages.val = true)
    (hbefore : ∀ i < n,
      ((advance serve config window)^[i] s).1.isOver config.maxPages.val = false) :
    loop serve check config window left s.1 visits s.2
      = ⟨visits.reverse ++ (List.range n).map
          fun i => nextVisit serve check config window ((advance serve config window)^[i] s),
        ⟨((advance serve config window)^[n] s).1.totalMs,
          ((advance serve config window)^[n] s).1.pages⟩,
        ((advance serve config window)^[n] s).2⟩ := by
  induction n generalizing left s visits with
  | zero =>
      rw [loop_of_isOver serve check config window left s.1 visits s.2 hover, List.range_zero,
        List.map_nil, List.append_nil]
      rfl
  | succ n ih =>
      -- The counter does not run out first, since it is at least the number of
      -- steps to the exit.
      cases left with
      | zero => omega
      | succ left =>
          have hnow : ¬ (s.1.isOver config.maxPages.val = true) :=
            Bool.eq_false_iff.mp (hbefore 0 (by omega))
          have hrest := ih left (advance serve config window s)
            (nextVisit serve check config window s :: visits) (by omega) hover
            fun i hi => hbefore (i + 1) (by omega)
          rw [loop, if_neg hnow, List.range_succ_eq_map, List.map_cons, List.map_map]
          rw [List.reverse_cons, List.append_assoc, List.singleton_append] at hrest
          exact hrest

end Steps

theorem run_eq_of_isOver (serve : σ → Url → Exchange × σ) (check : String) (config : Config)
    (window : Window) (server : σ) (n : Nat)
    (hover : (stateAt serve config window server n).1.isOver config.maxPages.val = true)
    (hbefore : ∀ i < n,
      (stateAt serve config window server i).1.isOver config.maxPages.val = false) :
    run serve check config window server
      = ⟨(List.range n).map fun i =>
          nextVisit serve check config window (stateAt serve config window server i),
        ⟨(stateAt serve config window server n).1.totalMs, n⟩,
        (stateAt serve config window server n).2⟩ := by
  -- The first state that is over lies at the cap or before it, because a
  -- state before it has fewer pages than the cap.
  have hcap : n ≤ config.maxPages.val := by
    cases n with
    | zero => omega
    | succ n =>
        have h := pages_lt_of_not_isOver _ _ (hbefore n (by omega))
        rw [pages_stateAt] at h
        exact h
  have hloop := loop_eq_of_isOver serve check config window n config.maxPages.val
    (.start, server) [] hcap hover hbefore
  have hpages : ((advance serve config window)^[n] (.start, server)).1.pages = n :=
    pages_stateAt serve config window server n
  rw [List.reverse_nil, List.nil_append, hpages] at hloop
  exact hloop

/-- Every sweep comes to a first state that is over. -/
theorem exists_first_isOver (serve : σ → Url → Exchange × σ) (config : Config) (window : Window)
    (server : σ) :
    ∃ n, (stateAt serve config window server n).1.isOver config.maxPages.val = true ∧
      ∀ i < n, (stateAt serve config window server i).1.isOver config.maxPages.val = false := by
  -- The state at the cap is over, so there is a first one that is.
  have hcap : (stateAt serve config window server config.maxPages.val).1.isOver
      config.maxPages.val = true :=
    isOver_of_le _ _ (Nat.le_of_eq (pages_stateAt serve config window server _).symm)
  have hexists : ∃ n, (stateAt serve config window server n).1.isOver config.maxPages.val = true :=
    ⟨_, hcap⟩
  exact ⟨Nat.find hexists, Nat.find_spec hexists,
    fun i hi => Bool.eq_false_iff.mpr (Nat.find_min hexists hi)⟩

/-- Every sweep has a page at least and no more than the cap, whatever the server does. -/
theorem exists_run_eq (serve : σ → Url → Exchange × σ) (check : String) (config : Config)
    (window : Window) (server : σ) :
    ∃ n, 1 ≤ n ∧ n ≤ config.maxPages.val ∧
      run serve check config window server
        = ⟨(List.range n).map fun i =>
            nextVisit serve check config window (stateAt serve config window server i),
          ⟨(stateAt serve config window server n).1.totalMs, n⟩,
          (stateAt serve config window server n).2⟩ := by
  rcases exists_first_isOver serve config window server with ⟨n, hover, hbefore⟩
  refine ⟨n, ?_, ?_, run_eq_of_isOver serve check config window server n hover hbefore⟩
  · refine Nat.one_le_iff_ne_zero.mpr fun hzero => ?_
    rw [hzero] at hover
    exact absurd hover (Bool.eq_false_iff.mp (isOver_start config))
  · -- The state at the cap is over, so the first one does not lie behind it.
    by_contra hlt
    have hcap := isOver_of_le (stateAt serve config window server config.maxPages.val).1
      config.maxPages.val (Nat.le_of_eq (pages_stateAt serve config window server _).symm)
    rw [hbefore _ (Nat.not_le.mp hlt)] at hcap
    exact absurd hcap Bool.false_ne_true

/-- The check is told of every page of a sweep whether it came with status 200. -/
theorem reported_of_mem_visits (serve : σ → Url → Exchange × σ) (check : String)
    (config : Config) (window : Window) (server : σ) (visit : Visit)
    (hvisit : visit ∈ (run serve check config window server).visits) :
    visit.reported = [.record check visit.reply.isOk] := by
  rcases exists_run_eq serve check config window server with ⟨n, -, -, hrun⟩
  rw [hrun] at hvisit
  rcases List.mem_map.mp hvisit with ⟨i, -, rfl⟩
  rfl

/-- A page without a cursor is the last one. -/
theorem pages_of_nextCursor_eq_none (serve : σ → Url → Exchange × σ) (check : String)
    (config : Config) (window : Window) (server : σ) (i : Nat) (visit : Visit)
    (hvisit : (run serve check config window server).visits[i]? = some visit)
    (hnone : Page.nextCursor visit.reply.body = none) :
    (run serve check config window server).result.pages = i + 1 := by
  rcases exists_first_isOver serve config window server with ⟨n, hover, hbefore⟩
  rw [run_eq_of_isOver serve check config window server n hover hbefore] at hvisit ⊢
  simp only [List.getElem?_map, Option.map_eq_some_iff, List.getElem?_eq_some_iff,
    List.length_range, List.getElem_range] at hvisit
  rcases hvisit with ⟨_, ⟨hi, rfl⟩, rfl⟩
  -- The state after this page is over, so no page follows.
  have hlast : (stateAt serve config window server (i + 1)).1.isOver config.maxPages.val
      = true := by
    rw [stateAt_succ, Progress.isOver, Bool.or_eq_true, Bool.and_eq_true]
    exact Or.inr ⟨decide_eq_true (Nat.succ_pos _), Option.isNone_iff_eq_none.mpr hnone⟩
  by_contra hne
  have hlt : i + 1 < n := by
    have h : n ≠ i + 1 := hne
    omega
  rw [hbefore (i + 1) hlt] at hlast
  exact absurd hlast Bool.false_ne_true

/-- A run against a service on this machine, with three events to a page. -/
def localConfig : Config where
  baseUrl := ⟨"http", some ⟨"", none, .name "localhost", none⟩, .segments [""], none, none⟩
  limit := ⟨3, by decide, by decide⟩
  vus := ⟨2, by decide, by decide⟩
  duration := .ofSecs 1
  maxPages := Config.defaultMaxPages
  requestTimeout := Config.defaultRequestTimeout
  metricsAddr := none

end Sweep

end PageSweep
