import PageSweep.Proofs.Service.Walk

/-!
# Pages at the End of the Word

A page ends where its room is used up or where the data ends. The service adds the room
to the start before it looks at the end of the data, and it adds machine words. As long as
the sum is a word, the page is the one that the natural numbers give: it begins within
the data, it ends within the data, and if there is more, its cursor is an event behind the
one of the request.

The sum is no word only in the last thousand events before `2 ^ 64`. There the service
crashes, also where the page would have ended at the end of the data long before.

## Main definitions

* `nearTop`: A request at the last event of the largest data set.

## Theorems

* `page?_of_room`: What comes of a request for a page, over the natural numbers.
* `page?_bounds`: Where a page begins and ends.
* `page?_overflows`: A page of one event that is not made.
-/

namespace PageSweep

namespace Service

section

variable (total offset : UInt64) (query : Query) (hoffset : offset? query.cursor = some offset)
include hoffset

/-- A request whose start and room are a word together gets the page between them. -/
theorem page?_of_room (hword : min offset.toNat total.toNat + room query.limit < 2 ^ 64) :
    page? total query = .ok (some (pageFrom total.toNat (min offset.toNat total.toNat)
      (room query.limit) (query.timeTo.getD ""))) := by
  have hsum : (UInt64.ofNat (min offset.toNat total.toNat + room query.limit)).toNat
      = min offset.toNat total.toNat + room query.limit := UInt64.toNat_ofNat_of_lt' hword
  rw [page?_of_sum total offset _ query hoffset (by rw [hsum, toNat_effectiveLimit]),
    pageBetween_eq_pageFrom total _ _ _ _ _ (toNat_min offset total) hsum]

theorem page?_of_no_room (hword : 2 ^ 64 ≤ min offset.toNat total.toNat + room query.limit) :
    page? total query = .error .overflow :=
  page?_of_overflow total offset query hoffset (by rw [toNat_effectiveLimit]; exact hword)

end

/-- Where a page begins and ends. If start and room add up to a word, there is a page: it
holds the events that the natural numbers say, and the cursor of the next one lies behind
the cursor of the request. If they do not, the service crashes. -/
theorem page?_bounds (total : UInt64) (query : Query) (offset : UInt64)
    (hoffset : offset? query.cursor = some offset) :
    let start := min offset.toNat total.toNat
    let stop := min (start + room query.limit) total.toNat
    (start + room query.limit < 2 ^ 64 →
      ∃ page, page? total query = .ok (some page) ∧
        start ≤ stop ∧ stop ≤ total.toNat ∧
        page.items
          = (List.range' start (stop - start)).map (event (query.timeTo.getD "")) ∧
        (page.hasMore = true ↔ stop < total.toNat) ∧
        (page.hasMore = true → ∃ next, decodeCursor? page.nextCursor = some next ∧
          next.toNat = stop ∧ offset.toNat < next.toNat) ∧
        (page.hasMore = false → page.nextCursor = "")) ∧
      (2 ^ 64 ≤ start + room query.limit → page? total query = .error .overflow) := by
  intro start stop
  have hroom := room_pos query.limit
  refine ⟨fun hword => ⟨_, page?_of_room total offset query hoffset hword, ?_⟩,
    page?_of_no_room total offset query hoffset⟩
  have hmore : decide (start + room query.limit < total.toNat) = true ↔ stop < total.toNat := by
    rw [decide_eq_true_iff]
    omega
  refine ⟨by omega, Nat.min_le_right _ _, rfl, hmore, fun h => ?_, fun h => ?_⟩
  · -- There is more only if the page begins at the request's own cursor, and no page is
    -- without room.
    have hlt : start + room query.limit < total.toNat := of_decide_eq_true h
    have hnext : (UInt64.ofNat (start + room query.limit)).toNat = start + room query.limit :=
      UInt64.toNat_ofNat_of_lt' hword
    refine ⟨UInt64.ofNat (start + room query.limit), ?_, ?_, ?_⟩
    · rw [pageFrom, if_pos hlt, decodeCursor?_encodeCursor]
    · rw [hnext]
      omega
    · rw [hnext]
      omega
  · exact if_neg (of_decide_eq_false h)

/-- Four events before the largest word, the page still ends where it should. -/
theorem page?_bounds_top :
    offset? (some "evt_fffffffffffffffc") = some 0xFFFFFFFFFFFFFFFC ∧
    ∃ page, page? 0xFFFFFFFFFFFFFFFF ⟨some 3, none, none, some "evt_fffffffffffffffc"⟩
        = .ok (some page) ∧
      page.items.length = 3 ∧ page.hasMore = false := by
  have hoffset : offset? (some "evt_fffffffffffffffc") = some 0xFFFFFFFFFFFFFFFC := by
    decide +kernel
  rcases (page?_bounds 0xFFFFFFFFFFFFFFFF ⟨some 3, none, none, some "evt_fffffffffffffffc"⟩
    0xFFFFFFFFFFFFFFFC hoffset).1 (by decide) with ⟨page, hpage, -, -, hitems, hmore, -⟩
  refine ⟨hoffset, page, hpage, ?_, ?_⟩
  · rw [hitems, List.length_map, List.length_range']
    decide
  · rw [← Bool.not_eq_true, hmore]
    decide

/-- A request for the page at the last event of the largest data set. -/
def nearTop : Query := ⟨none, none, none, some "evt_fffffffffffffffe"⟩

/-- The page at the last event of the largest data set would hold this event alone, but
the service crashes over it: start and room are no word together. -/
theorem page?_overflows :
    let total : UInt64 := 0xFFFFFFFFFFFFFFFF
    let start : Nat := 0xFFFFFFFFFFFFFFFE
    offset? nearTop.cursor = some (UInt64.ofNat start) ∧
    min (start + room nearTop.limit) total.toNat - start = 1 ∧
    page? total nearTop = .error .overflow ∧ ∀ page, page? total nearTop ≠ .ok (some page) := by
  intro total start
  have hoffset : offset? nearTop.cursor = some (UInt64.ofNat start) := by decide +kernel
  have hcrash : page? total nearTop = .error .overflow :=
    page?_of_no_room total _ nearTop hoffset (by decide)
  refine ⟨hoffset, by decide, hcrash, fun page hpage => ?_⟩
  rw [hcrash] at hpage
  exact absurd hpage (by simp only [reduceCtorEq, not_false_eq_true])

end Service

end PageSweep
