import PageSweep.Proofs.Service.Page

/-!
# What a Sweep Reads in an Answer

Whatever the endpoint answers, a sweep reads in the body what the endpoint meant. A page
goes on at its cursor if it says that there is more and names one. Every other answer
ends the sweep: the body that is not JSON, the object about a cursor that was not handed
out, and the empty body of a request that came too fast.

Nothing is asked of the text in a page. The end of the window comes back in every event,
and the cursor of a service that never ends is any text at all, so quotes, backslashes
and control characters are written and read like everything else.

## Main definitions

* `EventPage.next?`: The cursor with which a page wants to be followed.

## Theorems

* `nextCursor_page`: The body of a page.
* `nextCursor_malformed`, `nextCursor_empty`, `nextCursor_invalid`: The other bodies.
* `nextCursor_events`: The body of every answer of the endpoint.
-/

namespace PageSweep

namespace Service

/-- The cursor with which a page wants to be followed. -/
def EventPage.next? (p : EventPage) : Option String :=
  if p.hasMore = true ∧ p.nextCursor ≠ "" then some p.nextCursor else none

theorem nextCursor_page (p : EventPage) :
    Page.nextCursor (some p.json.text.toUTF8) = p.next? := by
  rw [nextCursor_body, EventPage.next?]
  by_cases hmore : p.hasMore = true
  · by_cases hcursor : p.nextCursor = ""
    · simp only [hmore, hcursor, bne_self_eq_false, Bool.and_false, Bool.false_eq_true, if_false,
        ne_eq, not_true_eq_false, and_false]
    · simp only [hmore, hcursor, Bool.true_and, bne_iff_ne, ne_eq, not_false_eq_true, and_self,
        if_true]
  · simp only [hmore, Bool.false_and, Bool.false_eq_true, if_false, false_and]

/-- A text that is not JSON gives no cursor. -/
theorem nextCursor_of_read? (text : String) (h : Json.read? text.toList = none) :
    Page.nextCursor (some text.toUTF8) = none := by
  rw [Page.nextCursor, Option.bind_some, Page.value?, Utf8.strict_toUTF8, Option.bind_some, h]
  rfl

theorem nextCursor_malformed : Page.nextCursor (some malformedBody.toUTF8) = none :=
  nextCursor_of_read? malformedBody (by decide)

theorem nextCursor_empty : Page.nextCursor (some "".toUTF8) = none :=
  nextCursor_of_read? "" (by decide)

theorem nextCursor_invalid : Page.nextCursor (some invalidCursor.text.toUTF8) = none := by
  have hplain : Json.Plain Json.Reader.maxDepth invalidCursor := ⟨trivial, trivial⟩
  have hread : Page.value? invalidCursor.text.toUTF8 = some invalidCursor.normal := by
    rw [Page.value?, Utf8.strict_toUTF8, Option.bind_some, Json.text, String.toList_ofList,
      Json.read?_chars invalidCursor hplain]
  -- It is an object, but neither of the members is there.
  rw [Page.nextCursor, Option.bind_some, hread]
  rfl

/-- A sweep reads in the body of every answer what the endpoint meant, for every service,
every query and every text in them. There is an answer unless the page of the request
reaches beyond the words. -/
theorem nextCursor_events (s : Service) (rawQuery : Option String) (query : Query) :
    match (s.events rawQuery query).1 with
    | .answered answer =>
      let read := Page.nextCursor (some answer.body.toUTF8)
      if s.admits then
        match s.config.mode with
        | .paged =>
          match page? s.config.totalEvents query with
          | .ok (some page) => answer.body = page.json.text ∧
              read = if page.hasMore = true ∧ page.nextCursor ≠ "" then some page.nextCursor
                else none
          | .ok none => answer.status = 400 ∧ answer.body = invalidCursor.text ∧ read = none
          | .error _ => False
        | .endless cursor => answer.body = (EventPage.json ⟨[], cursor, true⟩).text ∧
            read = if cursor ≠ "" then some cursor else none
        | .malformed => answer.body = malformedBody ∧ read = none
      else answer.status = 503 ∧ answer.body = "" ∧ read = none
    | .crashed cause _ => s.admits = true ∧ s.config.mode = .paged ∧
        page? s.config.totalEvents query = .error cause := by
  by_cases hadmits : s.admits = true
  · simp only [events, hadmits, if_true, Config.answer]
    cases hmode : s.config.mode with
    | paged =>
        cases hpage : page? s.config.totalEvents query with
        | ok given =>
            cases given with
            | some page => exact ⟨rfl, nextCursor_page page⟩
            | none => exact ⟨rfl, rfl, nextCursor_invalid⟩
        | error cause => exact ⟨trivial, rfl, rfl⟩
    | endless cursor =>
        refine ⟨rfl, (nextCursor_page ⟨[], cursor, true⟩).trans ?_⟩
        simp only [EventPage.next?, true_and]
    | malformed => exact ⟨rfl, nextCursor_malformed⟩
  · simp only [events, hadmits, if_false, Answer.bare, Outcome.after, Bool.false_eq_true]
    exact ⟨trivial, trivial, nextCursor_empty⟩

end Service

end PageSweep
