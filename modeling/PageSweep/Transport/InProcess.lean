import PageSweep.Page.Exchange
import PageSweep.Service
import PageSweep.Transport.Http
import PageSweep.Url

/-!
# Calling the Service

The events service can be called directly with the path and the query of a request,
or over HTTP. A service that crashes over a request sends no response to it.

## Main definitions

* `Service.serve`: The service called in process.
* `Service.deliver`: What happens to a request sent to the service.
-/

namespace PageSweep

namespace Service

/-- What comes of a request at the service. -/
def answerTo (s : Service) (url : Url) : Outcome × Service :=
  s.handle .get url.path.text url.query

/-- What arrives of an outcome, and how long the request takes. -/
def Outcome.delivery : Outcome → Http.Delivery × Span
  | .answered answer =>
    (.complete answer.status answer.body.toUTF8, .ofMillis answer.waitedMs)
  | .crashed _ waitedMs => (.none, .ofMillis waitedMs)

/-- The exchange that comes of an outcome without a link in between: every body
arrives. -/
def Outcome.exchange : Outcome → Exchange
  | .answered answer =>
    ⟨some answer.status, some answer.body.toUTF8, .ofMillis answer.waitedMs⟩
  | .crashed _ waitedMs => .nothing (.ofMillis waitedMs)

/-- The service called in process. -/
def serve (s : Service) (url : Url) : Exchange × Service :=
  let (outcome, s) := s.answerTo url
  (outcome.exchange, s)

/-- What happens to a request sent to the service over a link, and how long it
takes. -/
def deliver (link : Http.Link) (s : Service) (url : Url) : Http.Delivery × Span × Service :=
  match link with
  | .down => (link.deliver .none, .zero, s)
  | .up =>
    let (outcome, s) := s.answerTo url
    let (sent, duration) := outcome.delivery
    (link.deliver sent, duration, s)

/-- The service reached over a link. -/
def serveOver (link : Http.Link) (s : Service) (url : Url) : Exchange × Service :=
  let (delivery, duration, s) := s.deliver link url
  (Http.exchange duration delivery, s)

end Service

end PageSweep
