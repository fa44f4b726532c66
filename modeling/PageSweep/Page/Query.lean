import PageSweep.Positive
import PageSweep.Time.Window
import PageSweep.Url
import PageSweep.Url.Form

/-!
# Page Requests

The query of one page: how many events at most, which window, and where to go on.
The first request of a sweep has no cursor, and then the query does not name one.

## Main definitions

* `Page.Query`: What a page request asks for.
* `Page.Query.first`, `Page.Query.after`: The first request, and one that goes on.
* `Page.Query.url`: The URL of a request at an endpoint.
-/

namespace PageSweep

namespace Page

/-- What a page request asks for. -/
structure Query where
  limit : PageCount
  window : Window
  cursor : Option String

namespace Query

/-- The first request of a sweep. -/
def first (limit : PageCount) (window : Window) : Query :=
  ⟨limit, window, none⟩

/-- The same request, going on at `cursor`. -/
def after (query : Query) (cursor : String) : Query :=
  { query with cursor := some cursor }

/-- The named values of the query, in the order in which they are sent. -/
def pairs (query : Query) : List (String × String) :=
  [("limit", toString query.limit.val), ("time_from", query.window.start),
    ("time_to", query.window.stop)] ++
    (query.cursor.map ("cursor", ·)).toList

/-- The endpoint with the pairs appended to its query. -/
def url (query : Query) (endpoint : Url) : Url :=
  let added := String.ofList (Form.encode query.pairs)
  endpoint.withQuery (some (match endpoint.query with
    | none => added
    | some old => if old.isEmpty then added else old ++ "&" ++ added))

end Query

end Page

end PageSweep
