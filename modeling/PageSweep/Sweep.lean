import PageSweep.Config
import PageSweep.Metrics.Operation
import PageSweep.Page.Cursor
import PageSweep.Page.Exchange
import PageSweep.Page.Query

/-!
# Sweeps

A sweep fetches the pages of a window one after another. It follows the cursor of
each page to the next one and ends when a page gives none or the page cap is
reached. Status and ending are independent: a page that is an error but says that
there is more is followed all the same. What the status of a page has a say in is a
check, to which the sweep reports every page.

`Sweep.Progress` is a sweep between two requests, so that several sweeps can take
turns. `Sweep.run` lets one sweep run to its end against a server.

## Main definitions

* `Sweep.Progress`: What is known between two requests.
* `Sweep.Progress.after`: What is known after a reply.
* `Sweep.Progress.take`: Taking a reply and reporting it.
* `Sweep.Progress.isOver`: Whether no page is left to fetch.
* `Sweep.run`: A whole sweep.
* `Sweep.Result`: What a sweep measured.
-/

namespace PageSweep

namespace Sweep

/-- A sweep between two requests. -/
structure Progress where
  /-- Pages fetched so far. -/
  pages : Nat
  /-- The time of all requests so far, in milliseconds. -/
  totalMs : Float
  /-- Where to go on, from the last reply. -/
  cursor : Option String

namespace Progress

/-- A sweep before its first request. -/
def start : Progress := ⟨0, 0.0, none⟩

/-- The next request. -/
def query (p : Progress) (limit : PageCount) (window : Window) : Page.Query :=
  match p.cursor with
  | none => Page.Query.first limit window
  | some cursor => (Page.Query.first limit window).after cursor

/-- The sweep after a reply. -/
def after (p : Progress) (reply : Exchange) : Progress :=
  ⟨p.pages + 1, p.totalMs + reply.millis, Page.nextCursor reply.body⟩

/-- Takes a reply: what is known after it, and what is reported, which is whether the
page came with status 200. -/
def take (check : String) (p : Progress) (reply : Exchange) : Progress × List Operation :=
  (p.after reply, [.record check reply.isOk])

/-- Whether no page is left: the cap is reached, or the last reply gave no cursor. -/
def isOver (p : Progress) (maxPages : Nat) : Bool :=
  maxPages ≤ p.pages || (0 < p.pages && p.cursor.isNone)

end Progress

/-- What a sweep measured. -/
structure Result where
  /-- The time of all requests, in milliseconds. -/
  totalMs : Float
  pages : Nat

/-- The time of a page on average. -/
def Result.pageAvgMs (r : Result) : Float :=
  r.totalMs / Float.ofNat r.pages

/-- A request, its reply and what the sweep reported of it. -/
structure Visit where
  url : Url
  reply : Exchange
  reported : List Operation

/-- A sweep that is over. -/
structure Log (σ : Type) where
  visits : List Visit
  result : Result
  /-- The server afterwards. -/
  server : σ

/-- All that a sweep reported, in order. -/
def Log.reported {σ : Type} (log : Log σ) : List Operation :=
  log.visits.flatMap Visit.reported

variable {σ : Type}

/-- Fetches pages until the sweep is over, at most as many as the first argument
says. `visits` holds those so far, the last one first. -/
def loop (serve : σ → Url → Exchange × σ) (check : String) (config : Config) (window : Window) :
    Nat → Progress → List Visit → σ → Log σ
  | 0, p, visits, server => ⟨visits.reverse, ⟨p.totalMs, p.pages⟩, server⟩
  | left + 1, p, visits, server =>
    if p.isOver config.maxPages.val then ⟨visits.reverse, ⟨p.totalMs, p.pages⟩, server⟩
    else
      let url := (p.query config.limit window).url config.eventsUrl
      let (reply, server) := serve server url
      let (p, reported) := p.take check reply
      loop serve check config window left p (⟨url, reply, reported⟩ :: visits) server

/-- A whole sweep of a window, which reports to a check. -/
def run (serve : σ → Url → Exchange × σ) (check : String) (config : Config) (window : Window)
    (server : σ) : Log σ :=
  loop serve check config window config.maxPages.val .start [] server

end Sweep

end PageSweep
