import PageSweep.Net.SocketAddr
import PageSweep.Positive
import PageSweep.Text.Quoted
import PageSweep.Time.Span
import PageSweep.Url.Reader

/-!
# Run Configuration

What a run needs to know: the server, the size of a page, how many virtual users
run each scenario for how long, how many pages a flow fetches at most, and how long
to wait for a reply.

The base URL has to use `http` or `https`. The events endpoint lies below its path:
the trailing slashes of the path are dropped and `/disputes/events` is appended;
query and fragment are dropped as well.

## Main definitions

* `Config`: A run configuration.
* `Config.ofBaseUrl`: The default configuration for a server.
* `Config.eventsUrl`: The events endpoint.
* `Config.Fault`: Why a base URL is refused.
-/

namespace PageSweep

/-- A run configuration. -/
structure Config where
  baseUrl : Url
  /-- Events per page. -/
  limit : PageCount
  /-- Virtual users per scenario. -/
  vus : UserCount
  /-- How long a scenario starts new flows. -/
  duration : Span
  /-- Pages per flow, at most. -/
  maxPages : PageCount
  requestTimeout : Span
  /-- Where metrics are served during the run. -/
  metricsAddr : Option SocketAddr

namespace Config

/-- Why a base URL is refused. -/
inductive Fault where
  | invalidUrl (text : String) (cause : Url.Fault)
  | unsupportedScheme (text : String)

/-- The wording of a fault. -/
def Fault.message : Fault → String
  | .invalidUrl text cause => "Invalid base URL " ++ Quoted.text text ++ ": " ++ cause.message
  | .unsupportedScheme text => "Base URL " ++ Quoted.text text ++ " must use http or https"

/-- The wording of what lies behind a fault. -/
def Fault.cause? : Fault → Option String
  | .invalidUrl _ cause => some cause.message
  | .unsupportedScheme _ => none

/-- The path of the events endpoint below the base path. -/
def eventsPath : String := "/disputes/events"

/-- A text without the slashes at its end. -/
def trimSlashes (path : List Char) : List Char :=
  (path.reverse.dropWhile (· = '/')).reverse

/-- The events endpoint below a base URL. -/
def eventsUrlOf (base : Url) : Url :=
  ((base.withPath (trimSlashes base.path.text.toList ++ eventsPath.toList)).withQuery
    none).withoutFragment

/-- The events endpoint. -/
def eventsUrl (config : Config) : Url :=
  eventsUrlOf config.baseUrl

/-- The web URL that a text spells. -/
def readBaseUrl (idna : Url.Idna) (text : String) : Except Fault Url :=
  match Url.read idna text with
  | .error cause => .error (.invalidUrl text cause)
  | .ok url => if url.isWeb then .ok url else .error (.unsupportedScheme text)

/-- The default page size. -/
def defaultLimit : PageCount := ⟨1000, by decide, by decide⟩

/-- The default page cap, a guard against servers that never stop. -/
def defaultMaxPages : PageCount := ⟨1000, by decide, by decide⟩

/-- The default number of virtual users. -/
def defaultVus : UserCount := ⟨4, by decide, by decide⟩

/-- The default run length. -/
def defaultDuration : Span := .ofSecs 20

/-- The default time to wait for a reply. -/
def defaultRequestTimeout : Span := .ofSecs 60

/-- The default configuration for a server. -/
def ofBaseUrl (idna : Url.Idna) (text : String) : Except Fault Config := do
  let baseUrl ← readBaseUrl idna text
  return {
    baseUrl
    limit := defaultLimit
    vus := defaultVus
    duration := defaultDuration
    maxPages := defaultMaxPages
    requestTimeout := defaultRequestTimeout
    metricsAddr := none }

end Config

end PageSweep
