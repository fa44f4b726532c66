import PageSweep.Json.Writer
import PageSweep.Service.Cursor
import PageSweep.Service.Query
import PageSweep.Word

/-!
# Pages of the Events Service

The service holds numbered events. A page begins at the event of the request's
cursor, or at the first one, and holds as many events as the request asks for:
ten if it does not say, and at most a thousand. It says whether there are more
events and which cursor the next page has.

A cursor that the service cannot have handed out gets no page. A page whose room
reaches beyond the largest word is not made: the service adds the room to the start
before it looks at the end of the data, and crashes if the sum is no word.

## Main definitions

* `Service.Event`: An event.
* `Service.EventPage`: A page.
* `Service.Crash`: Why the service crashes.
* `Service.page?`: The page that a request gets.
* `Service.EventPage.json`: A page as it is sent.
-/

namespace PageSweep

namespace Service

/-- An event. -/
structure Event where
  eventId : String
  disputeId : String
  kind : String
  providerEventId : String
  createdAt : String
  deriving DecidableEq

/-- A page of events. -/
structure EventPage where
  items : List Event
  nextCursor : String
  hasMore : Bool

/-- The page size of a request that names none. -/
def defaultLimit : UInt64 := 10

/-- The largest page size. -/
def maxLimit : UInt64 := 1000

/-- The kinds of events, which take turns. -/
def kinds : List String :=
  ["webhook_opened", "webhook_updated", "provider_decision", "evidence_submitted",
    "evidence_added"]

/-- The event of a number. A dispute has one event of each kind. -/
def event (createdAt : String) (n : Nat) : Event :=
  { eventId := "evt-" ++ toString n
    disputeId := "dsp-" ++ toString (n / kinds.length)
    kind := kinds.getD (n % kinds.length) ""
    providerEventId := "prv-" ++ toString n
    createdAt }

/-- How many events a request gets at most. -/
def effectiveLimit (limit : Option UInt64) : UInt64 :=
  match limit with
  | some n => if n = 0 then defaultLimit else min n maxLimit
  | none => defaultLimit

/-- The event with which a request's page begins. -/
def offset? (cursor : Option String) : Option UInt64 :=
  match cursor with
  | none => some 0
  | some "" => some 0
  | some cursor => decodeCursor? cursor

/-- Why the service crashes. -/
inductive Crash where
  /-- The start of a page and its room are no word together. -/
  | overflow
  deriving DecidableEq, Repr

/-- The page with the events from `start` up to `stop`, out of `total` events. -/
def pageBetween (total start stop : UInt64) (createdAt : String) : EventPage :=
  let numbers := List.range' start.toNat (stop.toNat - start.toNat)
  let hasMore := decide (stop < total)
  ⟨numbers.map (event createdAt), if hasMore then encodeCursor stop else "", hasMore⟩

/-- The page of a service with `total` events. -/
def page? (total : UInt64) (query : Query) : Except Crash (Option EventPage) :=
  match offset? query.cursor with
  | none => .ok none
  | some offset =>
    let start := min offset total
    match Word.add? start (effectiveLimit query.limit) with
    | none => .error .overflow
    | some sum => .ok (some (pageBetween total start (min sum total) (query.timeTo.getD "")))

/-- An event as it is sent. -/
def Event.json (e : Event) : Json :=
  .object [("event_id", .string e.eventId), ("dispute_id", .string e.disputeId),
    ("kind", .string e.kind), ("provider_event_id", .string e.providerEventId),
    ("data", .object []), ("created_at", .string e.createdAt)]

/-- A page as it is sent. -/
def EventPage.json (p : EventPage) : Json :=
  .object [("items", .array (p.items.map Event.json)), ("next_cursor", .string p.nextCursor),
    ("has_more", .bool p.hasMore)]

end Service

end PageSweep
