import PageSweep.Service.Page
import PageSweep.Time.Sleep

/-!
# The Events Service

A stand-in for the events endpoint. It pages through its events, or answers every
request alike: with the same cursor for ever, or with a body that is not JSON. It
can send another status than 200, wait before each answer, and turn requests away
that come too fast.

Only `GET` and `HEAD` of `/disputes/events` reach the endpoint. Every request with a
query that can be read is recorded, whatever comes of it.

Two things the service does not decide itself. Whether a request comes too fast is up
to a rate limiter, which goes by the clock, and a delay with jitter is drawn at random.
Both are `Surroundings` of the service, and what is said about the service holds in all
of them.

## Main definitions

* `Service.Config`: How the service answers.
* `Service.Surroundings`: What the service takes from outside.
* `Service`: The service with the requests that it has recorded.
* `Service.Answer`, `Service.Outcome`: What comes of a request.
* `Service.receive`: The endpoint's answer to a query.
* `Service.handle`: Answering a request.
-/

namespace PageSweep

namespace Service

/-- How the endpoint answers. -/
inductive Mode where
  /-- Pages of events. -/
  | paged
  /-- Always more, with the same cursor. -/
  | endless (cursor : String)
  /-- Never JSON. -/
  | malformed
  deriving DecidableEq

/-- How the service answers. -/
structure Config where
  totalEvents : UInt64
  mode : Mode
  /-- What is sent in place of status 200. -/
  statusOverride : Option Nat
  /-- How many requests within one second get through, if there is a limit. -/
  maxRate : Option Nat
  /-- How long the service sleeps before each answer, in milliseconds. -/
  delayMs : Nat
  /-- The standard deviation of that time, in milliseconds. -/
  jitterMs : Nat

/-- What the service takes from outside. Requests are counted from zero. -/
structure Surroundings where
  /-- Whether the limiter of a rate lets a request through. It is asked once for each
  request, and what it says depends on when it is asked. -/
  lets : (rate request : Nat) → Bool
  /-- The time that is drawn for a request from the normal distribution of a mean and a
  standard deviation, in milliseconds, where a negative one counts as none. -/
  drawnMs : (mean deviation request : Nat) → Nat

/-- A request as it was recorded. -/
structure Recorded where
  query : Query
  rawQuery : Option String
  deriving DecidableEq

end Service

/-- The service with the requests that it has recorded. -/
structure Service where
  config : Service.Config
  around : Service.Surroundings
  /-- Requests, the last one first. -/
  recorded : List Service.Recorded

namespace Service

/-- A service that no request has reached yet. -/
def start (config : Config) (around : Surroundings) : Service := ⟨config, around, []⟩

/-- The recorded requests in their order. -/
def requests (s : Service) : List Recorded :=
  s.recorded.reverse

/-- The methods of a request. -/
inductive Method where
  | get
  | head
  | other
  deriving DecidableEq

/-- The method of a name. -/
def Method.ofName (name : String) : Method :=
  if name = "GET" then .get else if name = "HEAD" then .head else .other

/-- An answer. -/
structure Answer where
  status : Nat
  contentType : Option String
  body : String
  /-- How long the answer took, in milliseconds. -/
  waitedMs : Nat

/-- An answer without a body, given at once. -/
def Answer.bare (status : Nat) : Answer := ⟨status, none, "", 0⟩

/-- The content type of plain text. -/
def plainText : String := "text/plain; charset=utf-8"

/-- The content type of JSON. -/
def jsonText : String := "application/json"

/-- The path of the endpoint. -/
def endpoint : String := "/disputes/events"

/-- The body that is not JSON. -/
def malformedBody : String := "<html>upstream error</html>"

/-- The body about a cursor that the service did not hand out. -/
def invalidCursor : Json := .object [("error", .string "invalid cursor")]

/-- What comes of a request. -/
inductive Outcome where
  | answered (answer : Answer)
  /-- The service crashed over the request, so many milliseconds after it came. -/
  | crashed (cause : Crash) (waitedMs : Nat)

/-- What comes of a request whose answer takes a time. -/
def Outcome.after (waitedMs : Nat) : Except Crash Answer → Outcome
  | .ok answer => .answered { answer with waitedMs }
  | .error cause => .crashed cause waitedMs

/-- What comes of a request that asks for the head of the answer only. -/
def Outcome.bodiless : Outcome → Outcome
  | .answered answer => .answered { answer with body := "" }
  | .crashed cause waitedMs => .crashed cause waitedMs

/-- The answer to a request that gets through, without the time it takes. -/
def Config.answer (c : Config) (query : Query) : Except Crash Answer :=
  let status := c.statusOverride.getD 200
  match c.mode with
  | .malformed => .ok ⟨status, some plainText, malformedBody, 0⟩
  | .endless cursor => .ok ⟨status, some jsonText, (EventPage.json ⟨[], cursor, true⟩).text, 0⟩
  | .paged =>
    match page? c.totalEvents query with
    | .ok (some page) => .ok ⟨status, some jsonText, page.json.text, 0⟩
    | .ok none => .ok ⟨400, some jsonText, invalidCursor.text, 0⟩
    | .error cause => .error cause

/-- Whether the next request gets through. -/
def admits (s : Service) : Bool :=
  match s.config.maxRate with
  | none => true
  | some rate => s.around.lets rate s.recorded.length

/-- How long the service sleeps before it answers the request of a number, in
milliseconds. -/
def latencyMs (config : Config) (around : Surroundings) (request : Nat) : Nat :=
  if config.jitterMs = 0 then config.delayMs
  else around.drawnMs config.delayMs config.jitterMs request

/-- What comes of a query that could be read; the request is recorded. -/
def events (s : Service) (rawQuery : Option String) (query : Query) : Outcome × Service :=
  let waitedMs := Sleep.length (latencyMs s.config s.around s.recorded.length)
  let answer := if s.admits then s.config.answer query else .ok (Answer.bare 503)
  (.after waitedMs answer, { s with recorded := ⟨query, rawQuery⟩ :: s.recorded })

/-- The answer to a query that cannot be read. -/
def refusal (fault : Query.Fault) : Answer :=
  ⟨400, some plainText, "Failed to deserialize query string: " ++ fault.message, 0⟩

/-- What comes of a query at the endpoint, read or not. -/
def receive (s : Service) (rawQuery : Option String) : Outcome × Service :=
  match Query.decode (rawQuery.getD "") with
  | .error fault => (.answered (refusal fault), s)
  | .ok query => s.events rawQuery query

/-- Answers a request. -/
def handle (s : Service) (method : Method) (path : String) (rawQuery : Option String) :
    Outcome × Service :=
  if path ≠ endpoint then (.answered (Answer.bare 404), s)
  else if method = .other then (.answered (Answer.bare 405), s)
  else
    let (outcome, s) := s.receive rawQuery
    if method = .head then (outcome.bodiless, s) else (outcome, s)

end Service

end PageSweep
