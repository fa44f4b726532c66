import Mathlib.Algebra.Ring.Nat
import PageSweep.Proofs.Service.Page
import PageSweep.Service.Walk

/-!
# A Walk Covers the Data Set

Following the cursors from the first page on, a walk meets every event once and in
order, whatever page size each of its requests asks for, and then it ends. The page
sizes may change from request to request, so the place of a page is not a multiple of
anything; it is where the page before it ended.

`Tiling` says what the pages of a walk are, without the service: adjacent ranges of
events up to the end of the data. The induction for its existence is on the number of
events that are left, which every page but the last makes smaller because no page size
is zero. A walk goes through the pages of a tiling one by one, since the cursor in a
page is the number of the event after it and reads back as that.

## Main definitions

* `room`: How many events a request gets at most, over the natural numbers.
* `Tiling`: Pages that follow one another up to the end of the data.

## Theorems

* `toNat_effectiveLimit`: The service's page size is `room`.
* `exists_tiling`: From every event on there is a tiling.
* `walkBy_of_tiling`: A walk goes through a tiling.
* `items_of_tiling`: The events of a tiling.
* `page_of_tiling`: What each page of a tiling says.
* `walk_covers`: A walk covers the data set.
-/

namespace PageSweep

namespace Service

/-- How many events a request gets at most: ten if it does not say or asks for none,
and never more than a thousand. -/
def room : Option UInt64 → Nat
  | none => 10
  | some n => if n.toNat = 0 then 10 else min n.toNat 1000

theorem toNat_effectiveLimit (limit : Option UInt64) :
    (effectiveLimit limit).toNat = room limit := by
  cases limit with
  | none => rfl
  | some n =>
      simp only [effectiveLimit, room]
      by_cases hn : n = 0
      · have hzero : n.toNat = 0 := by rw [hn, UInt64.toNat_zero]
        rw [if_pos hn, if_pos hzero]
        rfl
      · have hzero : n.toNat ≠ 0 := fun h => hn (UInt64.toNat_inj.mp h)
        rw [if_neg hn, if_neg hzero, toNat_min]
        rfl

theorem room_pos (limit : Option UInt64) : 0 < room limit := by
  unfold room
  cases limit with
  | none => decide
  | some n =>
      simp only
      by_cases hn : n.toNat = 0
      · rw [if_pos hn]
        decide
      · rw [if_neg hn]
        omega

theorem room_le (limit : Option UInt64) : room limit ≤ 1000 := by
  unfold room
  cases limit with
  | none => decide
  | some n =>
      simp only
      by_cases hn : n.toNat = 0
      · rw [if_pos hn]
        decide
      · rw [if_neg hn]
        omega

/-- Pages that follow one another from event `start` up to the end of the data. The
first one has the room that `limits 0` asks for, the next one that of `limits 1`, and
so on. -/
inductive Tiling (total : Nat) (createdAt : String) :
    (Nat → Option UInt64) → Nat → List EventPage → Prop where
  | last (limits : Nat → Option UInt64) (start : Nat) (hend : total ≤ start + room (limits 0)) :
      Tiling total createdAt limits start [pageFrom total start (room (limits 0)) createdAt]
  | more (limits : Nat → Option UInt64) (start : Nat) (rest : List EventPage)
      (hmore : start + room (limits 0) < total)
      (hrest : Tiling total createdAt (fun i => limits (i + 1)) (start + room (limits 0)) rest) :
      Tiling total createdAt limits start
        (pageFrom total start (room (limits 0)) createdAt :: rest)

theorem exists_tiling (total : Nat) (createdAt : String) (limits : Nat → Option UInt64)
    (start : Nat) : ∃ pages, Tiling total createdAt limits start pages := by
  -- The induction is on the number of events that are left.
  induction hleft : total - start using Nat.strongRecOn generalizing limits start with
  | ind left ih =>
      by_cases hmore : start + room (limits 0) < total
      · have hpos := room_pos (limits 0)
        rcases ih (total - (start + room (limits 0))) (by omega) (fun i => limits (i + 1))
          (start + room (limits 0)) rfl with ⟨rest, hrest⟩
        exact ⟨_, Tiling.more limits start rest hmore hrest⟩
      · exact ⟨_, Tiling.last limits start (by omega)⟩

section Tilings

variable {total : Nat} {createdAt : String} {limits : Nat → Option UInt64} {start : Nat}
variable {pages : List EventPage}

theorem ne_nil_of_tiling (h : Tiling total createdAt limits start pages) : pages ≠ [] := by
  cases h with
  | last => exact List.cons_ne_nil _ _
  | more => exact List.cons_ne_nil _ _

/-- The events of a tiling are those from its start on, each once and in order. -/
theorem items_of_tiling (h : Tiling total createdAt limits start pages)
    (hstart : start ≤ total) :
    pages.flatMap EventPage.items
      = (List.range' start (total - start)).map (event createdAt) := by
  induction h with
  | last limits start hend =>
      rw [List.flatMap_singleton, pageFrom, Nat.min_eq_right hend]
  | more limits start rest hmore hrest ih =>
      -- The first page takes as many events as it has room for, and the others go
      -- on where it ends.
      have hfirst : min (start + room (limits 0)) total - start = room (limits 0) := by omega
      have hall : total - start = room (limits 0) + (total - (start + room (limits 0))) := by
        omega
      rw [List.flatMap_cons, ih (by omega), pageFrom, hfirst, hall, ← List.range'_append_1,
        List.map_append]

/-- All pages of a tiling but the last are full and say where to go on. -/
theorem page_of_tiling (h : Tiling total createdAt limits start pages) (i : Nat)
    (page : EventPage) (hpage : pages[i]? = some page) :
    (i + 1 < pages.length → page.items.length = room (limits i)) ∧
    (page.hasMore = true ↔ i + 1 < pages.length) ∧
    (page.nextCursor ≠ "" ↔ i + 1 < pages.length) := by
  induction h generalizing i with
  | last limits start hend =>
      cases i with
      | zero =>
          have hlast : ¬ start + room (limits 0) < total := by omega
          have hnone : ¬ 0 + 1 < 0 + 1 := by omega
          rw [List.getElem?_cons_zero, Option.some.injEq] at hpage
          rw [← hpage, List.length_singleton]
          refine ⟨fun hlt => absurd hlt hnone, iff_of_false ?_ hnone, iff_of_false ?_ hnone⟩
          · simp only [pageFrom, hlast, decide_false, Bool.false_eq_true, not_false_eq_true]
          · simp only [pageFrom, hlast, if_false, ne_eq, not_true_eq_false, not_false_eq_true]
      | succ i => simp only [List.getElem?_cons_succ, List.getElem?_nil, reduceCtorEq] at hpage
  | more limits start rest hmore hrest ih =>
      have hpos : 0 < rest.length := List.length_pos_iff.mpr (ne_nil_of_tiling hrest)
      cases i with
      | zero =>
          have hcursor := encodeCursor_ne_empty (UInt64.ofNat (start + room (limits 0)))
          have hnext : 0 + 1 < rest.length + 1 := by omega
          rw [List.getElem?_cons_zero, Option.some.injEq] at hpage
          rw [← hpage, List.length_cons]
          refine ⟨fun _ => ?_, iff_of_true ?_ hnext, iff_of_true ?_ hnext⟩
          · rw [pageFrom, List.length_map, List.length_range']
            omega
          · simp only [pageFrom, hmore, decide_true]
          · simp only [pageFrom, hmore, if_true, ne_eq, hcursor, not_false_eq_true]
      | succ i =>
          rw [List.getElem?_cons_succ] at hpage
          rw [List.length_cons, Nat.add_lt_add_iff_right]
          exact ih i hpage

end Tilings

/-- The event with which the next page begins is the one in the cursor. -/
theorem offset?_encodeCursor (start : Nat) :
    offset? (some (encodeCursor (UInt64.ofNat start))) = some (UInt64.ofNat start) := by
  rw [offset?, decodeCursor?_encodeCursor]
  exact fun hempty => encodeCursor_ne_empty _ hempty

/-- A page of a walk: no request gets past the last word, since a page has room for a
thousand events at most. -/
theorem page?_of_offset (total : UInt64) (htotal : total.toNat ≤ 2 ^ 64 - 1 - 1000)
    (query : Query) (start : Nat) (hoffset : offset? query.cursor = some (UInt64.ofNat start))
    (hstart : start ≤ total.toNat) :
    page? total query
      = .ok (some (pageFrom total.toNat start (room query.limit) (query.timeTo.getD ""))) := by
  have hroom := room_le query.limit
  exact page?_eq_pageFrom total query start (room query.limit) hoffset hstart
    (toNat_effectiveLimit query.limit) (by omega)

/-- A walk goes through the pages of a tiling one by one. -/
theorem walkBy_of_tiling (total : UInt64) (htotal : total.toNat ≤ 2 ^ 64 - 1 - 1000)
    (createdAt : String) (limits : Nat → Option UInt64) (start : Nat) (pages : List EventPage)
    (htiling : Tiling total.toNat createdAt limits start pages) (hstart : start ≤ total.toNat)
    (query : Query) (hoffset : offset? query.cursor = some (UInt64.ofNat start))
    (hcreated : query.timeTo.getD "" = createdAt) (more : Nat) :
    walkBy total limits more query = .ok ((pages.map some).take more) := by
  induction htiling generalizing query more with
  | last limits start hend =>
      have hpage := page?_of_offset total htotal { query with limit := limits 0 } start hoffset
        hstart
      have hlast : ¬ start + room (limits 0) < total.toNat := by omega
      cases more with
      | zero => rfl
      | succ more =>
          rw [walkBy, hpage]
          simp only [pageFrom, hcreated, hlast, decide_false, Bool.false_eq_true, if_false,
            List.map_cons, List.map_nil, List.take_succ_cons, List.take_nil]
  | more limits start rest hmore hrest ih =>
      have hpage := page?_of_offset total htotal { query with limit := limits 0 } start hoffset
        hstart
      cases more with
      | zero => rfl
      | succ more =>
          -- The cursor in the page is where the rest of the tiling begins.
          have hnext := ih (Nat.le_of_lt hmore)
            { query with cursor := some (encodeCursor (UInt64.ofNat (start + room (limits 0)))) }
            (offset?_encodeCursor _) hcreated more
          rw [walkBy, hpage]
          simp only [pageFrom, hcreated, hmore, decide_true, if_true, hnext, Except.map,
            List.map_cons, List.take_succ_cons]

/-- A walk from the first page on covers the data set: it gets a page for every request
and ends after finitely many, its pages put together are all events in their order, and
every page but the last is full. Only the last page says that there are no more events
and has no cursor. Every request may ask for a page size of its own, or for none. -/
theorem walk_covers (total : UInt64) (htotal : total.toNat ≤ 2 ^ 64 - 1 - 1000)
    (limits : Nat → Option UInt64) (query : Query) (hcursor : query.cursor = none) :
    ∃ pages : List EventPage, pages ≠ [] ∧
      (∀ more, walkBy total limits more query = .ok ((pages.map some).take more)) ∧
      pages.flatMap EventPage.items
        = (List.range total.toNat).map (event (query.timeTo.getD "")) ∧
      ∀ i page, pages[i]? = some page →
        (i + 1 < pages.length → page.items.length =
          match limits i with
          | none => 10
          | some n => if n.toNat = 0 then 10 else min n.toNat 1000) ∧
        (page.hasMore = false ↔ i + 1 = pages.length) ∧
        (page.nextCursor = "" ↔ i + 1 = pages.length) := by
  rcases exists_tiling total.toNat (query.timeTo.getD "") limits 0 with ⟨pages, htiling⟩
  have hoffset : offset? query.cursor = some (UInt64.ofNat 0) := by
    rw [hcursor]
    rfl
  refine ⟨pages, ne_nil_of_tiling htiling, fun more => ?_, ?_, fun i page hpage => ?_⟩
  · exact walkBy_of_tiling total htotal _ limits 0 pages htiling (Nat.zero_le _) query hoffset
      rfl more
  · rw [items_of_tiling htiling (Nat.zero_le _), Nat.sub_zero, List.range_eq_range']
  · have hi : i < pages.length := (List.getElem?_eq_some_iff.mp hpage).1
    rcases page_of_tiling htiling i page hpage with ⟨hfull, hmore, hnext⟩
    refine ⟨fun hlt => hfull hlt, ?_, ?_⟩
    · rw [← Bool.not_eq_true, hmore]
      omega
    · rw [← not_iff_not, ← ne_eq, hnext]
      omega

/-- A walk over 2 events with page sizes that change: the first request asks for one
event, the second for none, which means ten. -/
theorem walk_covers_two :
    ∃ pages : List EventPage,
      (∀ more, walkBy 2 (fun i => if i = 0 then some 1 else some 0) more Query.empty
        = .ok ((pages.map some).take more)) ∧
      (pages.flatMap EventPage.items).map Event.eventId = ["evt-0", "evt-1"] := by
  rcases walk_covers 2 (by decide) (fun i => if i = 0 then some 1 else some 0) Query.empty rfl
    with ⟨pages, -, hwalk, hitems, -⟩
  refine ⟨pages, hwalk, ?_⟩
  rw [hitems]
  rfl

end Service

end PageSweep
