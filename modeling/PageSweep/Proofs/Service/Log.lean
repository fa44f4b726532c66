import PageSweep.Service

/-!
# The Log of the Service

The service keeps a record of the requests that reach its endpoint. A request reaches
it by its path, its method and a query that can be read, and by nothing else: neither
the mode of the service, nor the status that it sends, nor what the rate limiter says
has a say in it, and a request over which the service crashes is recorded as well. The
record holds the query as it was sent and as it was read.

A query that cannot be read gives a limit that is no number, or gives a parameter
twice. Its request is turned away before the endpoint sees it, with a status of its
own, and there is nothing that could be recorded as read.

## Main definitions

* `Request`: What a client sends.
* `Request.record?`: The record of a request, if it reaches the endpoint.
* `answerAll`: Answering one request after another.

## Theorems

* `handle_of_record?`: Answering one request.
* `requests_answerAll`: The log after several requests.
* `outcome_of_get`: What comes of them.
* `log_of_requests`: Both together, for a service that no request has reached yet.
-/

namespace PageSweep

namespace Service

/-- What a client sends. -/
structure Request where
  method : Method
  path : String
  rawQuery : Option String

/-- A `GET` request of the endpoint. -/
def Request.get (rawQuery : Option String) : Request := ⟨.get, endpoint, rawQuery⟩

/-- What a query says, if it can be read. -/
def readQuery? (rawQuery : Option String) : Option Query :=
  (Query.decode (rawQuery.getD "")).toOption

/-- The record of a request, if it reaches the endpoint. -/
def Request.record? (r : Request) : Option Recorded :=
  if r.path = endpoint ∧ r.method ≠ .other then
    (readQuery? r.rawQuery).map fun query => ⟨query, r.rawQuery⟩
  else none

/-- Answers one request after another. -/
def answerAll (s : Service) : List Request → List Outcome × Service
  | [] => ([], s)
  | r :: rest =>
    let (outcome, s) := s.handle r.method r.path r.rawQuery
    let (outcomes, s) := answerAll s rest
    (outcome :: outcomes, s)

section Receive

variable (s : Service) (rawQuery : Option String)

theorem receive_of_error (fault : Query.Fault)
    (h : Query.decode (rawQuery.getD "") = .error fault) :
    s.receive rawQuery = (.answered (refusal fault), s) := by
  rw [receive, h]

theorem receive_of_ok (query : Query) (h : Query.decode (rawQuery.getD "") = .ok query) :
    s.receive rawQuery = s.events rawQuery query := by
  rw [receive, h]

/-- The log after a query has been received, read or not. -/
theorem recorded_receive :
    (s.receive rawQuery).2.requests
      = s.requests ++ ((readQuery? rawQuery).map fun query => ⟨query, rawQuery⟩).toList := by
  unfold readQuery?
  cases h : Query.decode (rawQuery.getD "") with
  | error fault =>
      rw [receive_of_error s rawQuery fault h]
      exact (List.append_nil _).symm
  | ok query =>
      rw [receive_of_ok s rawQuery query h]
      exact List.reverse_cons

/-- How a service answers stays the same. -/
theorem config_receive :
    (s.receive rawQuery).2.config = s.config ∧ (s.receive rawQuery).2.around = s.around := by
  cases h : Query.decode (rawQuery.getD "") with
  | error fault =>
      rw [receive_of_error s rawQuery fault h]
      exact ⟨rfl, rfl⟩
  | ok query =>
      rw [receive_of_ok s rawQuery query h]
      exact ⟨rfl, rfl⟩

end Receive

/-- Answering one request adds its record to the log, if it has one, and changes
nothing else. -/
theorem handle_of_record? (s : Service) (r : Request) :
    (s.handle r.method r.path r.rawQuery).2.requests = s.requests ++ r.record?.toList ∧
    (s.handle r.method r.path r.rawQuery).2.config = s.config ∧
    (s.handle r.method r.path r.rawQuery).2.around = s.around := by
  unfold handle Request.record?
  by_cases hpath : r.path = endpoint
  · by_cases hmethod : r.method = .other
    · rw [if_neg (not_not_intro hpath), if_pos hmethod, if_neg fun h => h.2 hmethod]
      exact ⟨(List.append_nil _).symm, rfl, rfl⟩
    · rw [if_neg (not_not_intro hpath), if_neg hmethod, if_pos ⟨hpath, hmethod⟩]
      -- A request for the head alone is recorded like any other.
      by_cases hhead : r.method = .head
      · simp only [if_pos hhead]
        exact ⟨recorded_receive s r.rawQuery, config_receive s r.rawQuery⟩
      · simp only [if_neg hhead]
        exact ⟨recorded_receive s r.rawQuery, config_receive s r.rawQuery⟩
  · rw [if_pos hpath, if_neg fun h => hpath h.1]
    exact ⟨(List.append_nil _).symm, rfl, rfl⟩

/-- The log after several requests: their records, in the order of the requests. -/
theorem requests_answerAll (s : Service) (requests : List Request) :
    (s.answerAll requests).2.requests = s.requests ++ requests.filterMap Request.record? := by
  induction requests generalizing s with
  | nil => exact (List.append_nil _).symm
  | cons r rest ih =>
      rw [answerAll, ih, (handle_of_record? s r).1, List.append_assoc]
      cases h : r.record? with
      | none => rw [List.filterMap_cons_none h]; rfl
      | some record => rw [List.filterMap_cons_some h]; rfl

theorem length_answerAll (s : Service) (requests : List Request) :
    (s.answerAll requests).1.length = requests.length := by
  induction requests generalizing s with
  | nil => rfl
  | cons r rest ih => rw [answerAll, List.length_cons, List.length_cons, ih]

/-- What can come of a `GET` request of the endpoint, when so many requests have been
recorded: one answer for a query that cannot be read, and for one that can, what comes of
it depending on whether it gets through. -/
def Answers (config : Config) (around : Surroundings) (before : Nat)
    (rawQuery : Option String) (outcome : Outcome) : Prop :=
  match Query.decode (rawQuery.getD "") with
  | .error fault => outcome = .answered (refusal fault)
  | .ok query =>
    let waitedMs := Sleep.length (latencyMs config around before)
    outcome = .after waitedMs (config.answer query) ∨
      outcome = .after waitedMs (.ok (Answer.bare 503))

theorem outcome_of_get (s : Service) (rawQuery : Option String) :
    Answers s.config s.around s.requests.length rawQuery
      (s.handle .get endpoint rawQuery).1 := by
  have hhandle : s.handle .get endpoint rawQuery = s.receive rawQuery := by
    unfold handle
    rw [if_neg (not_not_intro rfl), if_neg fun h => Method.noConfusion h]
    rfl
  rw [hhandle, Answers]
  cases h : Query.decode (rawQuery.getD "") with
  | error fault => rw [receive_of_error s rawQuery fault h]
  | ok query =>
      rw [receive_of_ok s rawQuery query h, events, requests, List.length_reverse]
      by_cases hadmits : s.admits = true
      · exact Or.inl (by rw [if_pos hadmits])
      · exact Or.inr (by rw [if_neg hadmits])

theorem outcomes_answerAll (s : Service) (requests : List Request) (i : Nat)
    (rawQuery : Option String) (hi : requests[i]? = some (.get rawQuery)) :
    ∃ outcome, (s.answerAll requests).1[i]? = some outcome ∧
      Answers s.config s.around
        (s.requests.length + ((requests.take i).filterMap Request.record?).length)
        rawQuery outcome := by
  induction requests generalizing s i with
  | nil => exact absurd hi (by simp only [List.getElem?_nil, reduceCtorEq, not_false_eq_true])
  | cons r rest ih =>
      rw [answerAll]
      cases i with
      | zero =>
          have hr : r = .get rawQuery := Option.some.inj hi
          rw [hr]
          exact ⟨_, rfl, outcome_of_get s rawQuery⟩
      | succ i =>
          rcases ih (s.handle r.method r.path r.rawQuery).2 i hi with ⟨outcome, hget, hanswer⟩
          -- The request before has not changed how the service answers, but there may be
          -- one record more.
          rcases handle_of_record? s r with ⟨hrequests, hconfig, haround⟩
          rw [hconfig, haround, hrequests, List.length_append] at hanswer
          refine ⟨outcome, hget, ?_⟩
          have hbefore : ((rest.take i).filterMap Request.record?).length + r.record?.toList.length
              = (((r :: rest).take (i + 1)).filterMap Request.record?).length := by
            rw [List.take_succ_cons]
            cases h : r.record? with
            | none => rw [List.filterMap_cons_none h]; rfl
            | some record => rw [List.filterMap_cons_some h]; rfl
          rw [← hbefore, Nat.add_comm _ r.record?.toList.length, ← Nat.add_assoc]
          exact hanswer

/-- The log of a service after any requests, whatever its mode, its status, its rate and
its surroundings. It holds one record for each request that reaches the endpoint with a
query that can be read, in the order of the requests, as it was sent and as it was read. A
`GET` request of the endpoint has no record exactly if its query cannot be read, and then
its answer says so. -/
theorem log_of_requests (config : Config) (around : Surroundings) (requests : List Request) :
    let (outcomes, after) := (start config around).answerAll requests
    after.requests = requests.filterMap Request.record? ∧
    outcomes.length = requests.length ∧
    ∀ (i : Nat) (rawQuery : Option String), requests[i]? = some (.get rawQuery) →
      let before := ((requests.take i).filterMap Request.record?).length
      let waitedMs := Sleep.length (latencyMs config around before)
      ∃ outcome, outcomes[i]? = some outcome ∧
        match Query.decode (rawQuery.getD "") with
        | .ok query => (Request.get rawQuery).record? = some ⟨query, rawQuery⟩ ∧
            (outcome = .after waitedMs (config.answer query) ∨
              outcome = .after waitedMs (.ok (Answer.bare 503)))
        | .error fault => (Request.get rawQuery).record? = none ∧
            outcome = .answered (refusal fault) ∧ (refusal fault).status = 400 := by
  refine ⟨requests_answerAll _ _, length_answerAll _ _, fun i rawQuery hi => ?_⟩
  rcases outcomes_answerAll (start config around) requests i rawQuery hi
    with ⟨outcome, hget, hanswer⟩
  have hstart : (start config around).requests.length = 0 := rfl
  have hrecord : (Request.get rawQuery).record?
      = (readQuery? rawQuery).map fun query => ⟨query, rawQuery⟩ :=
    if_pos ⟨rfl, fun h => Method.noConfusion h⟩
  rw [hstart, Nat.zero_add, Answers] at hanswer
  intro before waitedMs
  refine ⟨outcome, hget, ?_⟩
  rw [hrecord, readQuery?]
  cases h : Query.decode (rawQuery.getD "") with
  | error fault =>
      rw [h] at hanswer
      exact ⟨rfl, hanswer, rfl⟩
  | ok query =>
      rw [h] at hanswer
      exact ⟨rfl, hanswer⟩

/-- The status of an answer, if there is one. -/
def Outcome.status? : Outcome → Option Nat
  | .answered answer => some answer.status
  | .crashed _ _ => none

/-- A service that pages through seven events and has no limiter. -/
def sevenEvents : Config := ⟨7, .paged, none, none, 0, 0⟩

/-- Surroundings that let nothing through and draw no time. -/
def strict : Surroundings := ⟨fun _ _ => false, fun _ _ _ => 0⟩

/-- A limit that is no number: the one request that was sent is answered, and the log
stays empty. -/
theorem log_misses_unreadable :
    let sent := [Request.get (some "limit=abc")]
    let (outcomes, after) := (start sevenEvents strict).answerAll sent
    outcomes.map Outcome.status? = [some 400] ∧ after.requests = [] ∧
      after.requests.length ≠ sent.length := by
  decide +kernel

end Service

end PageSweep
