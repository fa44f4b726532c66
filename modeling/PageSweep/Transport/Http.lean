import PageSweep.Metrics.Operation
import PageSweep.Page.Exchange

/-!
# The HTTP Client

The client turns whatever happens to a request into an exchange. A request can stay
without a response, or a response can break off before its body is complete.

Every request is counted and its time is kept. It counts as failed unless it got a
response with a status of success or redirection.

## Main definitions

* `Http.Delivery`: What happens to a request.
* `Http.exchange`: The exchange that comes of it.
* `Http.register`, `Http.report`: The series of the client.
* `Http.Link`: Whether the server can be reached.
-/

namespace PageSweep

namespace Http

/-- What happens to a request. -/
inductive Delivery where
  /-- No response. -/
  | none
  /-- A response whose body breaks off. -/
  | partly (status : Nat)
  | complete (status : Nat) (body : ByteArray)

/-- Statuses whose response has no body. -/
def isBodiless (status : Nat) : Bool :=
  status = 204 || status = 304

/-- The exchange that comes of a delivery. -/
def exchange (duration : Span) : Delivery → Exchange
  | .none => ⟨none, none, duration⟩
  | .partly status => ⟨some status, none, duration⟩
  | .complete status body =>
    ⟨some status, some (if isBodiless status then ByteArray.empty else body), duration⟩

/-- Whether a status means success or redirection. -/
def succeeds (status : Nat) : Bool :=
  200 ≤ status && status < 400

/-- Whether a request counts as failed. -/
def failed (reply : Exchange) : Bool :=
  match reply.status with
  | some status => !succeeds status
  | none => true

/-- The trend of the time per request. -/
def durationTrend : String := "http_req_duration"

/-- The counter of requests. -/
def requestCounter : String := "http_reqs"

/-- The counter of failed requests. -/
def failureCounter : String := "http_req_failed"

/-- Asks for the series of the client. -/
def register : List Operation :=
  [.trend durationTrend, .counter requestCounter, .counter failureCounter]

/-- What the client reports about a request. -/
def report (reply : Exchange) : List Operation :=
  [.increment requestCounter 1, .add durationTrend reply.millis] ++
    (if failed reply then [.increment failureCounter 1] else [])

/-- Whether the server can be reached. -/
inductive Link where
  | up
  | down
  deriving DecidableEq, Repr

/-- What happens to a request on a link: without a connection nothing arrives. -/
def Link.deliver (link : Link) (sent : Delivery) : Delivery :=
  match link with
  | .up => sent
  | .down => .none

end Http

end PageSweep
