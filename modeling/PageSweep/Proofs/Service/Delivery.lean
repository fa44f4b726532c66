import PageSweep.Proofs.Service.Page
import PageSweep.Proofs.Service.Query
import PageSweep.Transport.InProcess

/-!
# Page Requests Delivered to the Service

What lies between a sweep and the service is only asked to hand over: the query of a
request reaches the endpoint as it was sent, and status and body come back as they
were answered. A body is only asked to come back if the status lets a response have
one. Both ways of calling the service do this, in process and over a link.

A page request that is delivered to a paged service without a rate limit is answered
with the page from its cursor on and is recorded.

## Main definitions

* `MayCarryBody`: Whether a response with a status may have a body.
* `Delivers`: A way to the endpoint of the service.

## Theorems

* `delivers_serve`, `delivers_serveOver`: The ways there are.
* `receive_page`: The answer to a page request.
-/

namespace PageSweep

namespace Service

/-- A status whose response may have a body. -/
def MayCarryBody (status : Nat) : Prop :=
  200 ≤ status ∧ Http.isBodiless status = false

theorem mayCarryBody_ok : MayCarryBody 200 :=
  ⟨by decide, by decide⟩

/-- Requests for `target` reach the endpoint of the service, and what it answers comes
back. Nothing is said about how long it takes, nor about what comes back if the service
crashes. -/
structure Delivers (serve : Service → Url → Exchange × Service) (target : Url) : Prop where
  server : ∀ (s : Service) (rawQuery : String),
    (serve s (target.withQuery (some rawQuery))).2 = (s.receive (some rawQuery)).2
  status : ∀ (s : Service) (rawQuery : String) (answer : Answer),
    (s.receive (some rawQuery)).1 = .answered answer →
    (serve s (target.withQuery (some rawQuery))).1.status = some answer.status
  body : ∀ (s : Service) (rawQuery : String) (answer : Answer),
    (s.receive (some rawQuery)).1 = .answered answer → MayCarryBody answer.status →
    (serve s (target.withQuery (some rawQuery))).1.body = some answer.body.toUTF8

/-- A request for the endpoint is answered by it. -/
theorem answerTo_endpoint (s : Service) (target : Url) (rawQuery : String)
    (htarget : target.path.text = endpoint) :
    s.answerTo (target.withQuery (some rawQuery)) = s.receive (some rawQuery) := by
  have hpath : (target.withQuery (some rawQuery)).path.text = endpoint := htarget
  have hquery : (target.withQuery (some rawQuery)).query = some rawQuery := rfl
  -- The query is no part of the route.
  have hroute : ¬ (endpoint ≠ endpoint) := fun h => h rfl
  rw [answerTo, hpath, hquery, handle, if_neg hroute, if_neg (by decide)]
  rfl

theorem delivers_serve (target : Url) (htarget : target.path.text = endpoint) :
    Delivers serve target := by
  constructor
  case server =>
    intro s rawQuery
    simp only [serve, answerTo_endpoint s target rawQuery htarget]
  case status | body =>
    intro s rawQuery answer hanswer
    simp only [serve, answerTo_endpoint s target rawQuery htarget, hanswer, Outcome.exchange,
      implies_true]

theorem delivers_serveOver (target : Url) (htarget : target.path.text = endpoint) :
    Delivers (serveOver .up) target := by
  constructor
  case server =>
    intro s rawQuery
    simp only [serveOver, deliver, answerTo_endpoint s target rawQuery htarget]
  case status =>
    intro s rawQuery answer hanswer
    simp only [serveOver, deliver, answerTo_endpoint s target rawQuery htarget, hanswer,
      Outcome.delivery, Http.Link.deliver, Http.exchange]
  -- The link drops the body of a status without one, which is ruled out here.
  case body =>
    intro s rawQuery answer hanswer hstatus
    simp only [serveOver, deliver, answerTo_endpoint s target rawQuery htarget, hanswer,
      Outcome.delivery, Http.Link.deliver, Http.exchange, hstatus.2, Bool.false_eq_true, if_false]

/-- What a request of a query leaves in the records. -/
def recordOf (query : Page.Query) : Recorded :=
  ⟨Query.ofPage query, some (String.ofList (Form.encode query.pairs))⟩

/-- The answer to a page request at event `start`, if start and size are a word together. -/
theorem receive_page (s : Service) (query : Page.Query) (start size : Nat)
    (hmode : s.config.mode = .paged) (hrate : s.config.maxRate = none)
    (hoffset : offset? query.cursor = some (UInt64.ofNat start))
    (hstart : start ≤ s.config.totalEvents.toNat) (hsize : min query.limit.val 1000 = size)
    (hword : start + size < 0x10000000000000000) :
    let received := s.receive (some (String.ofList (Form.encode query.pairs)))
    ∃ answer, received.1 = .answered answer ∧
      answer.status = s.config.statusOverride.getD 200 ∧
      answer.body
        = (pageFrom s.config.totalEvents.toNat start size query.window.stop).json.text ∧
      received.2 = { s with recorded := recordOf query :: s.recorded } := by
  -- What the sweep asks for is never zero, so the service takes it as it is,
  -- up to a thousand.
  have hlimit : (effectiveLimit (Query.ofPage query).limit).toNat = size := by
    have hlt := query.limit.lt
    rw [← hsize]
    exact effectiveLimit_some query.limit.val query.limit.pos (by omega)
  have hpage := page?_eq_pageFrom s.config.totalEvents (Query.ofPage query) start size
    hoffset hstart hlimit hword
  -- Without a rate every request is admitted.
  have hadmits : s.admits = true := by
    simp only [admits, hrate]
  have hanswer : s.receive (some (String.ofList (Form.encode query.pairs)))
      = s.events (some (String.ofList (Form.encode query.pairs))) (Query.ofPage query) := by
    rw [receive, Option.getD_some, Query.decode_pairs]
  intro received
  have hreceived : received = _ := hanswer
  rw [hreceived]
  simp only [events, hadmits, if_true, Config.answer, hmode, hpage, Outcome.after]
  exact ⟨_, rfl, rfl, rfl, rfl⟩

end Service

end PageSweep
