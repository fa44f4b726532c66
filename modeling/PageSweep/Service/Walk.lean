import PageSweep.Service.Page

/-!
# Walking the Pages

A walk asks for page after page, each time with the cursor of the page before, until
a page says that there are no more events or a request gets no page. Each request may
ask for a page size of its own. A request that crashes the service ends all.

## Main definitions

* `Service.walkBy`: The pages of a walk whose requests differ in their page size.
* `Service.walk`: The pages of a walk with one page size.
-/

namespace PageSweep

namespace Service

/-- The pages of a walk that begins with `query`, at most as many as the third argument
says. The requests ask for `limits 0`, `limits 1` and so on. One that gets no page is
the last. -/
def walkBy (total : UInt64) (limits : Nat → Option UInt64) :
    Nat → Query → Except Crash (List (Option EventPage))
  | 0, _ => .ok []
  | more + 1, query =>
    match page? total { query with limit := limits 0 } with
    | .error crash => .error crash
    | .ok none => .ok [none]
    | .ok (some page) =>
      if page.hasMore then
        (walkBy total (fun i => limits (i + 1)) more
          { query with cursor := some page.nextCursor }).map (some page :: ·)
      else .ok [some page]

/-- The pages of a walk whose requests all ask for as many events as `query`. -/
def walk (total : UInt64) (more : Nat) (query : Query) :
    Except Crash (List (Option EventPage)) :=
  walkBy total (fun _ => query.limit) more query

end Service

end PageSweep
