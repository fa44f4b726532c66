import PageSweep.Page.Cursor
import PageSweep.Proofs.Catalog
import PageSweep.Proofs.Json.RoundTrip
import PageSweep.Proofs.Service.Cursor
import PageSweep.Proofs.Text.Utf8
import PageSweep.Proofs.Word
import PageSweep.Service

/-!
# Pages of Events

Two facts about a page that the service serves. It holds the events from its start up
to the page size or the end of the data, as long as start and size are a machine word
together; if they are not, the service crashes. And its body, read as any client would
read it, gives back the cursor and the numbers of the events.

The body says more than a sweep looks at: `eventIds` reads the events, which a sweep
skips, so that a page can be judged by what went over the wire.

## Main definitions

* `pageFrom`: The page of a start and a size, over the natural numbers.
* `Page.eventIds`: The ids of the events in a body.

## Theorems

* `page?_of_sum`, `page?_of_overflow`: What comes of a request for a page.
* `page?_eq_pageFrom`: The page over the natural numbers.
* `value?_body`: The JSON value of a page's body.
* `nextCursor_body`: The cursor that a page's body gives.
* `eventIds_body`: The events that a page's body gives.
-/

namespace PageSweep

/-- The id of an event in a body. -/
def Page.eventId? : Json → Option String
  | .object members =>
    match Json.member "event_id" members with
    | .string id => some id
    | _ => none
  | _ => none

/-- The ids of the events in a body. -/
def Page.eventIds (body : Option ByteArray) : List String :=
  match body.bind Page.value? with
  | some (.object members) =>
    match Json.member "items" members with
    | .array items => items.filterMap Page.eventId?
    | _ => []
  | _ => []

namespace Service

/-- The page that begins at event `start` and has room for `size` events. -/
def pageFrom (total start size : Nat) (createdAt : String) : EventPage :=
  ⟨(List.range' start (min (start + size) total - start)).map (event createdAt),
    if start + size < total then encodeCursor (UInt64.ofNat (start + size)) else "",
    decide (start + size < total)⟩

theorem toNat_min (a b : UInt64) : (min a b).toNat = min a.toNat b.toNat := by
  have hmin : min a b = if a ≤ b then a else b := rfl
  by_cases h : a ≤ b
  · rw [hmin, if_pos h, Nat.min_eq_left (UInt64.le_iff_toNat_le.mp h)]
  · have hle : b.toNat ≤ a.toNat :=
      Nat.le_of_lt (Nat.not_le.mp (mt UInt64.le_iff_toNat_le.mpr h))
    rw [hmin, if_neg h, Nat.min_eq_right hle]

/-- The page size of a request that asks for at least one event. -/
theorem effectiveLimit_some (n : Nat) (hpos : 0 < n) (hn : n < 0x10000000000000000) :
    (effectiveLimit (some (UInt64.ofNat n))).toNat = min n 1000 := by
  have hval : (UInt64.ofNat n).toNat = n := UInt64.toNat_ofNat_of_lt' hn
  have hne : UInt64.ofNat n ≠ 0 := by
    intro h
    rw [h, UInt64.toNat_zero] at hval
    omega
  simp only [effectiveLimit, if_neg hne]
  rw [toNat_min, hval]
  rfl

/-- The page of a request whose start and room are a word together. -/
theorem page?_of_sum (total offset sum : UInt64) (query : Query)
    (hoffset : offset? query.cursor = some offset)
    (hsum : sum.toNat = min offset.toNat total.toNat + (effectiveLimit query.limit).toNat) :
    page? total query
      = .ok (some (pageBetween total (min offset total) (min sum total)
        (query.timeTo.getD ""))) := by
  have hadd : Word.add? (min offset total) (effectiveLimit query.limit) = some sum := by
    rw [Word.add?_eq_some_iff, toNat_min, hsum]
  simp only [page?, hoffset, hadd]

/-- The service crashes over a request whose start and room are no word together. -/
theorem page?_of_overflow (total offset : UInt64) (query : Query)
    (hoffset : offset? query.cursor = some offset)
    (hsum : 2 ^ 64 ≤ min offset.toNat total.toNat + (effectiveLimit query.limit).toNat) :
    page? total query = .error .overflow := by
  have hadd : Word.add? (min offset total) (effectiveLimit query.limit) = none := by
    rw [Word.add?_eq_none_iff, toNat_min]
    exact hsum
  simp only [page?, hoffset, hadd]

/-- The page between a start within the data and an end that may lie behind it. -/
theorem pageBetween_eq_pageFrom (total first sum : UInt64) (start size : Nat)
    (createdAt : String) (hfirst : first.toNat = start) (hsum : sum.toNat = start + size) :
    pageBetween total first (min sum total) createdAt
      = pageFrom total.toNat start size createdAt := by
  have hlast : (min sum total).toNat = min (start + size) total.toNat := by
    rw [toNat_min, hsum]
  have hmore : min sum total < total ↔ start + size < total.toNat := by
    rw [UInt64.lt_iff_toNat_lt, hlast]
    omega
  simp only [pageBetween, pageFrom, hfirst, hlast, hmore, decide_eq_true_eq]
  by_cases h : start + size < total.toNat
  · -- There is more, and then the page ends where the next one begins.
    have hnext : min sum total = UInt64.ofNat (start + size) := by
      refine UInt64.toNat_inj.mp ?_
      have hword := total.toNat_lt
      rw [hlast, Nat.min_eq_left (by omega), UInt64.toNat_ofNat_of_lt' (by
        change start + size < 2 ^ 64; omega)]
    rw [hnext]
  · simp only [h, if_false]

/-- A page of the service, as long as its start and its room are a word together. -/
theorem page?_eq_pageFrom (total : UInt64) (query : Query) (start size : Nat)
    (hoffset : offset? query.cursor = some (UInt64.ofNat start)) (hstart : start ≤ total.toNat)
    (hsize : (effectiveLimit query.limit).toNat = size)
    (hword : start + size < 0x10000000000000000) :
    page? total query = .ok (some (pageFrom total.toNat start size (query.timeTo.getD ""))) := by
  have hoffsetNat : (UInt64.ofNat start).toNat = start :=
    UInt64.toNat_ofNat_of_lt' (by change start < 0x10000000000000000; omega)
  have hfirst : (min (UInt64.ofNat start) total).toNat = start := by
    rw [toNat_min, hoffsetNat, Nat.min_eq_left hstart]
  have hsum : (UInt64.ofNat (start + size)).toNat = start + size :=
    UInt64.toNat_ofNat_of_lt' hword
  rw [page?_of_sum total _ (UInt64.ofNat (start + size)) query hoffset
      (by rw [hsum, hoffsetNat, Nat.min_eq_left hstart, hsize]),
    pageBetween_eq_pageFrom total _ _ start size _ hfirst hsum]

/-- A page as it is sent is a value that reads back. -/
theorem plain_page (p : EventPage) : Json.Plain Json.Reader.maxDepth p.json := by
  refine ⟨?_, trivial, trivial, trivial⟩
  refine Json.plainItems_of_forall _ _ fun v hv => ?_
  rcases List.mem_map.mp hv with ⟨e, -, rfl⟩
  exact ⟨trivial, trivial, trivial, trivial, trivial, trivial, trivial⟩

/-- The members of a page's body, each with the value that was sent. -/
theorem value?_body (p : EventPage) :
    ∃ members, Page.value? p.json.text.toUTF8 = some (.object members) ∧
      Json.member "items" members = .array (p.items.map fun e => e.json.normal) ∧
      Json.member "next_cursor" members = .string p.nextCursor ∧
      Json.member "has_more" members = .bool p.hasMore := by
  have hread : Page.value? p.json.text.toUTF8 = some p.json.normal := by
    rw [Page.value?, Utf8.strict_toUTF8, Option.bind_some, Json.text, String.toList_ofList,
      Json.read?_chars p.json (plain_page p)]
  -- The members come back by name, whatever their order in the body.
  have hitems : (Json.array (p.items.map Event.json)).normal
      = .array (p.items.map fun e => e.json.normal) := by
    rw [Json.normal, Json.normalItems_eq_map, List.map_map]
    rfl
  refine ⟨_, hread, ?_, ?_, ?_⟩
  · have hname : "items" ∉ ["next_cursor", "has_more"] := by decide
    exact (Json.member_filed [] [("next_cursor", .string p.nextCursor),
      ("has_more", .bool p.hasMore)] "items" _ hname).trans hitems
  · have hname : "next_cursor" ∉ ["has_more"] := by decide
    exact Json.member_filed [_] [_] "next_cursor" _ hname
  · exact Json.member_filed [_, _] [] "has_more" _ List.not_mem_nil

/-- The cursor that a page's body gives. -/
theorem nextCursor_body (p : EventPage) :
    Page.nextCursor (some p.json.text.toUTF8)
      = if p.hasMore && p.nextCursor != "" then some p.nextCursor else none := by
  rcases value?_body p with ⟨members, hvalue, -, hcursor, hmore⟩
  rw [Page.nextCursor, Option.bind_some, hvalue, Option.bind_some, Page.cursorOf, hmore, hcursor]
  rfl

theorem eventId?_json (e : Event) : Page.eventId? e.json.normal = some e.eventId := by
  -- No later member of an event has the name of its id.
  have hname : "event_id" ∉ ["dispute_id", "kind", "provider_event_id", "data", "created_at"] := by
    decide
  have hid : Json.member "event_id" (Json.Reader.filed (Json.normalMembers
      [("event_id", .string e.eventId), ("dispute_id", .string e.disputeId),
        ("kind", .string e.kind), ("provider_event_id", .string e.providerEventId),
        ("data", .object []), ("created_at", .string e.createdAt)])) = .string e.eventId :=
    Json.member_filed [] [_, _, _, _, _] "event_id" _ hname
  rw [Event.json, Json.normal, Page.eventId?, hid]

/-- The events that a page's body gives. -/
theorem eventIds_body (p : EventPage) :
    Page.eventIds (some p.json.text.toUTF8) = p.items.map Event.eventId := by
  rcases value?_body p with ⟨members, hvalue, hitems, -, -⟩
  rw [Page.eventIds, Option.bind_some, hvalue]
  simp only [hitems, List.filterMap_map, Function.comp_def, eventId?_json]
  exact congrFun List.filterMap_eq_map p.items

end Service

end PageSweep
