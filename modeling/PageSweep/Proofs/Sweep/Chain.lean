import Mathlib.Data.Bool.Count
import Mathlib.Data.ENat.Lattice
import PageSweep.Proofs.Metrics.Registry
import PageSweep.Proofs.Sweep.Unrolled
import PageSweep.Proofs.Url.Form
import PageSweep.Transport.Script

/-!
# The Chain of Cursors

A sweep is the chain of cursors of its replies, cut off at the page cap. Against a
server whose replies are an arbitrary stream, the first request has no cursor, each
later one has the cursor of the reply before it, and the sweep ends after the first
reply without a cursor or at the cap, whichever comes first.

The stream is infinite and the sweep reads a beginning of it. How long that beginning
is depends on the bodies alone. Whether the chain ever ends is not decidable from a
beginning, so its end is a number that may be infinite.

The state of the sweep after `i` pages is known in closed form, `progressAt`, and the
invariant of the loop is that it is in this state. Everything else is read off it.

## Main definitions

* `answering`: A server that gives the replies of a stream.
* `cursorAt`: The cursor with which a request is made.
* `progressAt`: The state of a sweep after a number of pages.
* `chainEnd`: The index of the first reply without a cursor.
* `visitAt`: What is known of a page.
* `CappedChain`: What a sweep over a stream does.

## Theorems

* `stateAt_answering`: The invariant of the loop.
* `exists_length`: How many pages a sweep has.
* `run_answering`: A whole sweep over a stream.
* `queryPairs_request`: The parameters of a request.
* `run_cappedChain`: A sweep is the capped chain of its cursors.
-/

namespace PageSweep

namespace Sweep

/-- A server that gives the replies of a stream one after another. Its state is the
number of the next one. -/
def answering (replies : Nat → Exchange) (n : Nat) (_ : Url) : Exchange × Nat :=
  (replies n, n + 1)

/-- The cursor with which request `i` is made: the one that the reply before it gave. -/
def cursorAt (replies : Nat → Exchange) : Nat → Option String
  | 0 => none
  | i + 1 => Page.nextCursor (replies i).body

/-- The time of the first `i` requests, added up from the first one on. -/
def totalAt (replies : Nat → Exchange) (i : Nat) : Float :=
  (List.range i).foldl (fun total j => total + (replies j).millis) 0.0

/-- The state of a sweep after `i` pages. -/
def progressAt (replies : Nat → Exchange) (i : Nat) : Progress :=
  ⟨i, totalAt replies i, cursorAt replies i⟩

/-- The URL of request `i`. -/
def requestAt (config : Config) (window : Window) (replies : Nat → Exchange) (i : Nat) : Url :=
  (⟨config.limit, window, cursorAt replies i⟩ : Page.Query).url config.eventsUrl

/-- Visit `i`: the request, its reply, and the outcome of the check. -/
def visitAt (check : String) (config : Config) (window : Window) (replies : Nat → Exchange)
    (i : Nat) : Visit :=
  ⟨requestAt config window replies i, replies i, [.record check (replies i).isOk]⟩

/-- The index of the first reply without a cursor, infinite if all have one. -/
noncomputable def chainEnd (replies : Nat → Exchange) : ℕ∞ :=
  ⨅ (i : Nat) (_ : Page.nextCursor (replies i).body = none), (i : ℕ∞)

theorem totalAt_succ (replies : Nat → Exchange) (i : Nat) :
    totalAt replies (i + 1) = totalAt replies i + (replies i).millis := by
  rw [totalAt, List.range_succ, List.foldl_append]
  rfl

theorem progressAt_succ (replies : Nat → Exchange) (i : Nat) :
    progressAt replies (i + 1) = (progressAt replies i).after (replies i) := by
  rw [progressAt, totalAt_succ]
  rfl

theorem request_progressAt (config : Config) (window : Window) (replies : Nat → Exchange)
    (i : Nat) :
    (progressAt replies i).request config window = requestAt config window replies i := by
  rw [Progress.request, Progress.query_eq]
  rfl

/-- The invariant of the loop: after `i` pages the sweep is in the state that the
first `i` replies lead to, and the server is at reply `i`. -/
theorem stateAt_answering (config : Config) (window : Window) (replies : Nat → Exchange)
    (i : Nat) :
    stateAt (answering replies) config window 0 i = (progressAt replies i, i) := by
  induction i with
  | zero => rfl
  | succ i ih =>
      rw [stateAt_succ, ih, progressAt_succ]
      rfl

theorem isOver_progressAt (replies : Nat → Exchange) (maxPages i : Nat) :
    (progressAt replies i).isOver maxPages = true ↔
      maxPages ≤ i ∨ ∃ j, i = j + 1 ∧ Page.nextCursor (replies j).body = none := by
  rw [Progress.isOver, Bool.or_eq_true, Bool.and_eq_true, decide_eq_true_iff, decide_eq_true_iff,
    Option.isNone_iff_eq_none]
  refine or_congr Iff.rfl ?_
  constructor
  · rintro ⟨hpos, hnone⟩
    cases i with
    | zero => exact absurd hpos (Nat.lt_irrefl 0)
    | succ j => exact ⟨j, rfl, hnone⟩
  · rintro ⟨j, rfl, hnone⟩
    exact ⟨Nat.succ_pos j, hnone⟩

theorem chainEnd_eq_coe (replies : Nat → Exchange) (k : Nat)
    (hk : Page.nextCursor (replies k).body = none)
    (hbefore : ∀ j < k, Page.nextCursor (replies j).body ≠ none) : chainEnd replies = k := by
  -- The infimum is a minimum here: it is reached at the first end.
  refine le_antisymm (iInf₂_le k hk) (le_iInf₂ fun j hj => ?_)
  by_contra hlt
  exact hbefore j (Nat.cast_lt.mp (not_le.mp hlt)) hj

theorem chainEnd_eq_top (replies : Nat → Exchange)
    (hall : ∀ j, Page.nextCursor (replies j).body ≠ none) : chainEnd replies = ⊤ :=
  iInf₂_eq_top.mpr fun j hj => absurd hj (hall j)

/-- How many pages a sweep has, as the first state that is over. -/
theorem exists_length (replies : Nat → Exchange) (maxPages : Nat) :
    ∃ n : Nat, (n : ℕ∞) = min (maxPages : ℕ∞) (chainEnd replies + 1) ∧
      (progressAt replies n).isOver maxPages = true ∧
      ∀ i < n, (progressAt replies i).isOver maxPages = false := by
  by_cases hend : ∃ k, Page.nextCursor (replies k).body = none
  · -- The chain ends: at its first end, or at the cap before it.
    have hk := Nat.find_spec hend
    have hmin : ∀ j < Nat.find hend, Page.nextCursor (replies j).body ≠ none :=
      fun j hj => Nat.find_min hend hj
    refine ⟨min maxPages (Nat.find hend + 1), ?_, ?_, fun i hi => ?_⟩
    · rw [chainEnd_eq_coe replies _ hk hmin]
      exact Nat.mono_cast.map_min
    · rw [isOver_progressAt]
      by_cases hle : maxPages ≤ Nat.find hend + 1
      · exact Or.inl (Nat.le_of_eq (Nat.min_eq_left hle).symm)
      · exact Or.inr ⟨Nat.find hend, Nat.min_eq_right (by omega), hk⟩
    · rw [← Bool.not_eq_true, isOver_progressAt]
      rintro (hcap | ⟨j, rfl, hnone⟩)
      · omega
      · exact hmin j (by omega) hnone
  · -- The chain goes on for ever, so only the cap ends the sweep.
    have hall : ∀ j, Page.nextCursor (replies j).body ≠ none := fun j hj => hend ⟨j, hj⟩
    refine ⟨maxPages, ?_, ?_, fun i hi => ?_⟩
    · rw [chainEnd_eq_top replies hall, top_add, min_eq_left le_top]
    · exact (isOver_progressAt replies maxPages maxPages).mpr (Or.inl (Nat.le_refl _))
    · rw [← Bool.not_eq_true, isOver_progressAt]
      rintro (hcap | ⟨j, rfl, hnone⟩)
      · omega
      · exact hall j hnone

/-- A whole sweep over a stream, when its length is known. -/
theorem run_answering (check : String) (config : Config) (window : Window)
    (replies : Nat → Exchange) (n : Nat)
    (hover : (progressAt replies n).isOver config.maxPages.val = true)
    (hbefore : ∀ i < n, (progressAt replies i).isOver config.maxPages.val = false) :
    run (answering replies) check config window 0
      = ⟨(List.range n).map (visitAt check config window replies), ⟨totalAt replies n, n⟩, n⟩ := by
  have hrun := run_eq_of_isOver (answering replies) check config window 0 n
    (by rw [stateAt_answering]; exact hover)
    fun i hi => by rw [stateAt_answering]; exact hbefore i hi
  simp only [stateAt_answering, nextVisit, request_progressAt] at hrun
  exact hrun

/-- A state that is not over is at a cursor, unless it is the first one. -/
theorem exists_cursor_of_not_isOver (replies : Nat → Exchange) (maxPages i : Nat)
    (h : (progressAt replies (i + 1)).isOver maxPages = false) :
    ∃ cursor, Page.nextCursor (replies i).body = some cursor := by
  rw [← Bool.not_eq_true, isOver_progressAt] at h
  refine Option.ne_none_iff_exists'.mp fun hnone => ?_
  exact h (Or.inr ⟨i, rfl, hnone⟩)

/-- The parameters of a request are those of its query, with a cursor only if the
query has one. -/
theorem queryPairs_request (config : Config) (query : Page.Query) :
    (query.url config.eventsUrl).queryPairs = query.pairs := by
  rw [url_eventsUrl, Url.queryPairs, Url.withQuery, Option.getD_some, String.toList_ofList,
    Form.decode_encode]

/-- What a sweep over a stream of replies does. -/
structure CappedChain (check : String) (config : Config) (window : Window)
    (replies : Nat → Exchange) (log : Log Nat) : Prop where
  /-- It ends after the first reply without a cursor, or at the cap before that. -/
  pages : (log.result.pages : ℕ∞) = min (config.maxPages.val : ℕ∞) (chainEnd replies + 1)
  pages_pos : 1 ≤ log.result.pages
  pages_le : log.result.pages ≤ config.maxPages.val
  /-- The count of pages never leaves 32 bits. -/
  pages_lt : log.result.pages < 2 ^ 32
  /-- There is one request for each page, and each takes one reply of the stream. -/
  length : log.visits.length = log.result.pages
  answered : log.server = log.result.pages
  taken : log.visits.map Visit.reply = (List.range log.result.pages).map replies
  /-- The first request has no cursor. -/
  first : ∃ visit, log.visits[0]? = some visit ∧
    visit.url = (Page.Query.first config.limit window).url config.eventsUrl ∧
    visit.url.queryPairs = [("limit", toString config.limit.val), ("time_from", window.start),
      ("time_to", window.stop)]
  /-- Every later request has the cursor of the reply before it, and all else is the
  same. -/
  next : ∀ i, i + 1 < log.result.pages → ∃ visit cursor, log.visits[i + 1]? = some visit ∧
    Page.nextCursor (replies i).body = some cursor ∧
    visit.url = ((Page.Query.first config.limit window).after cursor).url config.eventsUrl ∧
    visit.url.queryPairs = [("limit", toString config.limit.val), ("time_from", window.start),
      ("time_to", window.stop), ("cursor", cursor)]
  /-- The times are added up from the first request on. -/
  total : log.result.totalMs
    = (List.range log.result.pages).foldl (fun total i => total + (replies i).millis) 0.0
  /-- The check is told of each page whether it came with status 200, and nothing else is
  reported. -/
  reported : log.reported
    = (List.range log.result.pages).map fun i => .record check ((replies i).status = some 200)

theorem outcomesOf_map_record (check : String) (passed : Nat → Bool) (indices : List Nat) :
    outcomesOf check (indices.map fun i => .record check (passed i)) = indices.map passed := by
  induction indices with
  | nil => rfl
  | cons i rest ih =>
      rw [List.map_cons, List.map_cons, ← ih, outcomesOf, List.filterMap_cons_some]
      · rfl
      · exact if_pos rfl

theorem cappedChain_of_isOver (check : String) (config : Config) (window : Window)
    (replies : Nat → Exchange) (n : Nat)
    (hn : (n : ℕ∞) = min (config.maxPages.val : ℕ∞) (chainEnd replies + 1))
    (hover : (progressAt replies n).isOver config.maxPages.val = true)
    (hbefore : ∀ i < n, (progressAt replies i).isOver config.maxPages.val = false) :
    CappedChain check config window replies (run (answering replies) check config window 0) := by
  have hcap : n ≤ config.maxPages.val := by
    have h : (n : ℕ∞) ≤ config.maxPages.val := hn ▸ min_le_left _ _
    exact Nat.cast_le.mp h
  have hpos : 1 ≤ n := by
    rcases Nat.eq_zero_or_pos n with h | h
    · rw [h] at hover
      exact absurd hover (Bool.eq_false_iff.mp (isOver_start config))
    · exact h
  have hlt : config.maxPages.val < 0x100000000 := config.maxPages.lt
  -- Request `i` is the one that the closed form of the state makes.
  have hget : ∀ i < n, ((List.range n).map (visitAt check config window replies))[i]?
        = some (visitAt check config window replies i) := by
    intro i hi
    rw [List.getElem?_map, List.getElem?_range hi, Option.map_some]
  rw [run_answering check config window replies n hover hbefore]
  have hword : n < 2 ^ 32 := by omega
  refine ⟨hn, hpos, hcap, hword, ?_, rfl, ?_, ?_, fun i hi => ?_, rfl, ?_⟩
  · rw [List.length_map, List.length_range]
  · rw [List.map_map]
    rfl
  · exact ⟨_, hget 0 hpos, rfl, queryPairs_request config _⟩
  · -- A later request is only made because the reply before it had a cursor.
    rcases exists_cursor_of_not_isOver replies _ i (hbefore (i + 1) hi) with ⟨cursor, hcursor⟩
    have hurl : requestAt config window replies (i + 1)
        = ((Page.Query.first config.limit window).after cursor).url config.eventsUrl := by
      rw [requestAt, cursorAt, hcursor]
      rfl
    refine ⟨_, cursor, hget (i + 1) hi, hcursor, hurl, ?_⟩
    rw [visitAt, hurl]
    exact queryPairs_request config _
  · rw [Log.reported, List.flatMap_map]
    exact List.flatMap_pure_eq_map _ _

/-- Streams with the same bodies have the same chain. -/
theorem cursorAt_congr (replies others : Nat → Exchange)
    (hbodies : ∀ i, (others i).body = (replies i).body) :
    cursorAt others = cursorAt replies := by
  funext i
  cases i with
  | zero => rfl
  | succ i => rw [cursorAt, cursorAt, hbodies]

/-- A sweep is the capped chain of the cursors of its replies. What it reports adds one
outcome to the check for each page, and neither the statuses nor the durations of the
replies have an influence on the requests. -/
theorem run_cappedChain (check : String) (config : Config) (window : Window)
    (replies : Nat → Exchange) :
    let log := run (answering replies) check config window 0
    CappedChain check config window replies log ∧
    (∀ before : List Operation,
      let tally := (Registry.empty.run before).tally check
      let passes := (List.range log.result.pages).countP fun i => (replies i).status = some 200
      ((Registry.empty.run before).run log.reported).tally check
        = ⟨tally.passes + UInt64.ofNat passes,
          tally.fails + UInt64.ofNat (log.result.pages - passes)⟩) ∧
    ∀ others : Nat → Exchange, (∀ i, (others i).body = (replies i).body) →
      (run (answering others) check config window 0).result.pages = log.result.pages ∧
      (run (answering others) check config window 0).visits.map Visit.url
        = log.visits.map Visit.url := by
  intro log
  rcases exists_length replies config.maxPages.val with ⟨n, hn, hover, hbefore⟩
  have hlog : log = _ := run_answering check config window replies n hover hbefore
  have hchain := cappedChain_of_isOver check config window replies n hn hover hbefore
  refine ⟨hchain, fun before => ?_, fun others hbodies => ?_⟩
  · let passed (i : Nat) : Bool := (replies i).status = some 200
    have hpages : log.result.pages = n := by rw [hlog]
    have houtcomes : outcomesOf check log.reported = (List.range n).map passed := by
      rw [hchain.reported, outcomesOf_map_record, hpages]
    have hsorted := Registry.sorted_empty_run before
    -- What has not passed has failed.
    have hfails : ((List.range n).map passed).count false
        = n - ((List.range n).map passed).count true := by
      have hsum := List.count_true_add_count_false ((List.range n).map passed)
      rw [List.length_map, List.length_range] at hsum
      omega
    have hpasses : ((List.range n).map passed).count true = (List.range n).countP passed := by
      rw [List.count, List.countP_map]
      exact List.countP_congr fun i _ => by simp only [Function.comp_apply, beq_true]
    rw [Registry.tally_run _ hsorted, houtcomes, Registry.tallied, hfails, hpasses, hpages]
  · -- Whether a state is over depends on the number of pages and the cursor.
    have hcursors := cursorAt_congr replies others hbodies
    have hsame : ∀ i, (progressAt others i).isOver config.maxPages.val
        = (progressAt replies i).isOver config.maxPages.val := by
      intro i
      rw [Progress.isOver, Progress.isOver, progressAt, progressAt, hcursors]
    rw [run_answering check config window others n (by rw [hsame]; exact hover)
      fun i hi => by rw [hsame]; exact hbefore i hi, hlog]
    refine ⟨rfl, ?_⟩
    simp only [List.map_map, Function.comp_def, visitAt, requestAt, hcursors]

/-- A page with a cursor and then nothing, both with the same status. -/
def twoReplies (status : Option Nat) (i : Nat) : Exchange :=
  if i = 0 then ⟨status, some "\x7b\"has_more\":true,\"next_cursor\":\"c\"\x7d".toUTF8, .zero⟩
  else ⟨status, none, .ofMillis 5⟩

/-- Two pages, whether they are errors or were never answered. The check fails twice. -/
theorem run_cappedChain_two :
    let log := run (answering (twoReplies (some 500))) "200" localConfig ⟨"a", "b"⟩ 0
    log.result.pages = 2 ∧
    (∃ visit, log.visits[1]? = some visit ∧ visit.url.queryPairs
      = [("limit", "3"), ("time_from", "a"), ("time_to", "b"), ("cursor", "c")]) ∧
    (Registry.empty.run log.reported).tally "200" = ⟨0, 2⟩ ∧
    (run (answering (twoReplies none)) "200" localConfig ⟨"a", "b"⟩ 0).visits.map Visit.url
      = log.visits.map Visit.url := by
  intro log
  rcases run_cappedChain "200" localConfig ⟨"a", "b"⟩ (twoReplies (some 500))
    with ⟨hchain, htally, hothers⟩
  have hpages : log.result.pages = 2 := by decide +kernel
  have hcursor : Page.nextCursor (twoReplies (some 500) 0).body = some "c" := by decide +kernel
  have hbodies : ∀ i, (twoReplies none i).body = (twoReplies (some 500) i).body := by
    intro i
    unfold twoReplies
    by_cases h : i = 0
    · rw [if_pos h, if_pos h]
    · rw [if_neg h, if_neg h]
  refine ⟨hpages, ?_, ?_, (hothers _ hbodies).2⟩
  · rcases hchain.next 0 (by rw [hpages]; decide) with ⟨visit, cursor, hvisit, hnext, -, hpairs⟩
    rw [hcursor] at hnext
    rw [← Option.some.inj hnext] at hpairs
    exact ⟨visit, hvisit, hpairs⟩
  · refine (htally []).trans ?_
    rw [hpages]
    decide

end Sweep

end PageSweep
