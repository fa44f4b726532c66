import PageSweep.Config

/-!
# Settings

Each setting of a run has a flag, an environment variable of the same name in
capitals, and mostly a default. A setting's value is read from text by rules of its
own.

## Main definitions

* `Setting`: The settings.
* `Setting.flag`, `Setting.envName`: Under which names a setting is given.
* `Setting.Value`: What a setting holds.
* `Setting.read`: Reading a value.
* `Setting.Fault`: Why a value is refused.
-/

namespace PageSweep

/-- The settings of a run. -/
inductive Setting where
  | baseUrl
  | limit
  | vus
  | duration
  | maxPages
  | requestTimeout
  | metricsAddr
  deriving DecidableEq, Repr

namespace Setting

/-- All settings, in the order in which they are listed and checked. -/
def all : List Setting :=
  [.baseUrl, .limit, .vus, .duration, .maxPages, .requestTimeout, .metricsAddr]

/-- The words of a setting's name. -/
def words : Setting → List String
  | .baseUrl => ["base", "url"]
  | .limit => ["limit"]
  | .vus => ["vus"]
  | .duration => ["duration"]
  | .maxPages => ["max", "pages"]
  | .requestTimeout => ["request", "timeout"]
  | .metricsAddr => ["metrics", "addr"]

/-- The long flag, without its dashes. -/
def flag (s : Setting) : String := "-".intercalate s.words

/-- The environment variable. -/
def envName (s : Setting) : String := "_".intercalate (s.words.map String.toUpper)

/-- How the flag is shown, with a name for its value. -/
def shown (s : Setting) : String := "--" ++ s.flag ++ " <" ++ s.envName ++ ">"

/-- The setting of a flag. -/
def ofFlag? (name : String) : Option Setting :=
  all.find? (·.flag = name)

/-- The value of a setting that is not given. -/
def default? : Setting → Option String
  | .baseUrl => some "http://localhost:3000"
  | .limit => some (toString Config.defaultLimit.val)
  | .vus => some (toString Config.defaultVus.val)
  | .duration => some "20s"
  | .maxPages => some (toString Config.defaultMaxPages.val)
  | .requestTimeout => some "60s"
  | .metricsAddr => none

/-- What a setting is for. -/
def about : Setting → String
  | .baseUrl => "Root URL of the target server"
  | .limit => "Page size requested on every call"
  | .vus => "Concurrent virtual users per scenario"
  | .duration => "Wall-clock run length per scenario (e.g. `20s`, `1m30s`)"
  | .maxPages => "Upper bound on pages fetched in a single flow"
  | .requestTimeout => "Per-request timeout"
  | .metricsAddr => "Serve Prometheus metrics on this address while the run is in progress"

/-- What a setting holds. -/
def Value : Setting → Type
  | .baseUrl => String
  | .limit => PageCount
  | .vus => UserCount
  | .duration => Span
  | .maxPages => PageCount
  | .requestTimeout => Span
  | .metricsAddr => SocketAddr

/-- Why a value is refused. -/
inductive Fault where
  | numeral (cause : Numeral.Fault)
  | zero
  | span (cause : Span.Fault)
  | socketAddr

/-- The wording of a fault. -/
def Fault.message : Fault → String
  | .numeral cause => cause.message
  | .zero => "number would be zero for non-zero type"
  | .span cause => cause.message
  | .socketAddr => "invalid socket address syntax"

/-- Whether a fault ends the program at once. -/
def Fault.crashes : Fault → Bool
  | .span .overflow => true
  | _ => false

/-- A positive number below a bound. -/
def readPositive (bound : Nat) (text : String) : Except Fault (Positive bound) :=
  match Numeral.read 10 bound text.toList with
  | .error cause => .error (.numeral cause)
  | .ok n =>
    match Positive.ofNat? n with
    | some p => .ok p
    | none => .error .zero

/-- A span of time. -/
def readSpan (text : String) : Except Fault Span :=
  match Span.read text with
  | .error cause => .error (.span cause)
  | .ok span => .ok span

/-- The value that a text gives a setting. Any text can be a base URL here; it is
looked at once the other settings are read. -/
def read : (s : Setting) → String → Except Fault s.Value
  | .baseUrl, text => .ok text
  | .limit, text => readPositive 0x100000000 text
  | .vus, text => readPositive 0x10000000000000000 text
  | .duration, text => readSpan text
  | .maxPages, text => readPositive 0x100000000 text
  | .requestTimeout, text => readSpan text
  | .metricsAddr, text =>
    match SocketAddr.read? text.toList with
    | some address => .ok address
    | none => .error .socketAddr

end Setting

end PageSweep
