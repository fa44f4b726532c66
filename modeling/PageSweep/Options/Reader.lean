import PageSweep.Options.Stop

/-!
# Reading the Command Line

A setting is given as `--flag value` or `--flag=value`; a flag beats the
environment variable, and the variable beats the default. A value after a blank may
not begin with a dash, a single dash apart. Each flag may be given once.

Arguments are read from the left. The value of a flag is looked at when the next
flag is reached, or the end; so an argument that belongs to no flag is reported
before a wrong value just in front of it. Environment variables are looked at last,
and only where no flag was given. A value that ends the program at once does so also
where another argument would be reported.

## Main definitions

* `Options.Progress`: What has been read so far.
* `Options.readArguments`: The settings that flags give.
* `Options.Settings`: The values of all settings.
* `Options.read`: The settings of a command line and an environment.
* `Options.readConfig`: The configuration of a command line and an environment.
-/

namespace PageSweep

namespace Options

/-- What has been read so far: settings with their texts in the order given, and a
flag whose value is not looked at yet or still to come. -/
structure Progress where
  given : List (Setting × String)
  waiting : Option (Setting × Option String)

namespace Progress

/-- Nothing read yet. -/
def start : Progress := ⟨[], none⟩

/-- The settings given so far. -/
def used (p : Progress) : List Setting := p.given.map Prod.fst

/-- Takes a value for a setting. -/
def accept (p : Progress) (s : Setting) (value : String) : Except Stop Progress :=
  if s ∈ p.used then .error (.repeated s)
  else match s.read value with
    | .ok _ => .ok ⟨p.given ++ [(s, value)], none⟩
    | .error cause => .error (.ofFault s value cause)

/-- Looks at the waiting flag. -/
def settle (p : Progress) : Except Stop Progress :=
  match p.waiting with
  | none => .ok p
  | some (s, none) => .error (.missingValue s)
  | some (s, some value) => p.accept s value

/-- Stops for a cause other than the waiting flag. The value of that flag is looked at
all the same, and only a crash of it matters. -/
def refuse (p : Progress) (cause : Stop) : Except Stop Progress :=
  match p.settle with
  | .error .crash => .error .crash
  | _ => .error cause

/-- The settings that a message about an unknown flag shows: those given, with the
waiting one if it has a value. -/
def mentioned (p : Progress) : List Setting :=
  match p.waiting with
  | some (s, some _) => if s ∈ p.used then p.used.erase s else p.used ++ [s]
  | _ => p.used

/-- A long flag, with its value if that is attached. -/
def long (p : Progress) (name : String) (value : Option String) : Except Stop Progress :=
  match Setting.ofFlag? name with
  | some s => do
    let p ← p.settle
    match value with
    | some value => p.accept s value
    | none => return { p with waiting := some (s, none) }
  | none =>
    if name = "help" ∨ name = "version" then
      match value with
      | some value => p.refuse (.needlessValue name value p.used)
      | none => do
        let _ ← p.settle
        throw (if name = "help" then .help true else .version)
    else p.refuse (.unknownFlag name p.mentioned)

/-- A short flag. -/
def short (p : Progress) (letter : Char) : Except Stop Progress :=
  if letter = 'h' then do
    let _ ← p.settle
    throw (.help false)
  else if letter = 'V' then do
    let _ ← p.settle
    throw .version
  else p.refuse (.unexpected (String.ofList ['-', letter]))

/-- An argument without a dash: the value of the waiting flag, or nothing's. -/
def plain (p : Progress) (argument : String) : Except Stop Progress :=
  match p.waiting with
  | some (s, none) => .ok { p with waiting := some (s, some argument) }
  | _ => p.refuse (.unexpected argument)

/-- One argument. -/
def argument (p : Progress) (text : String) : Except Stop Progress :=
  match text.toList with
  | '-' :: '-' :: rest =>
    match Text.cut? '=' rest with
    | some (name, value) => p.long (String.ofList name) (some (String.ofList value))
    | none => p.long (String.ofList rest) none
  | '-' :: letter :: _ => p.short letter
  | _ => p.plain text

end Progress

/-- The settings that flags give. After a lone `--` nothing more may follow. -/
def readArguments (p : Progress) : List String → Except Stop Progress
  | [] => p.settle
  | text :: rest =>
    if text = "--" then
      match rest with
      | [] => p.settle
      | argument :: _ => p.refuse (.unexpected argument)
    else do readArguments (← p.argument text) rest

/-- The values of all settings. -/
structure Settings where
  baseUrl : String
  limit : PageCount
  vus : UserCount
  duration : Span
  maxPages : PageCount
  requestTimeout : Span
  metricsAddr : Option SocketAddr

/-- The text that a setting gets: from its flag, its variable or its default. -/
def effective? (given : List (Setting × String)) (env : String → Option String) (s : Setting) :
    Option String :=
  (given.lookup s).or ((env s.envName).or s.default?)

/-- The value that a text gives a setting. -/
def readValue (s : Setting) (text : String) : Except Stop s.Value :=
  match s.read text with
  | .ok value => .ok value
  | .error cause => .error (.ofFault s text cause)

/-- The value of a setting that has a default. -/
def require (texts : Setting → Option String) (s : Setting) : Except Stop s.Value :=
  match texts s with
  | some text => readValue s text
  | none => .error (.missingValue s)

/-- The values of all settings, from their texts. -/
def Settings.ofTexts (texts : Setting → Option String) : Except Stop Settings := do
  let baseUrl ← require texts .baseUrl
  let limit ← require texts .limit
  let vus ← require texts .vus
  let duration ← require texts .duration
  let maxPages ← require texts .maxPages
  let requestTimeout ← require texts .requestTimeout
  let metricsAddr ← match texts .metricsAddr with
    | some text => (readValue .metricsAddr text).map some
    | none => pure none
  return { baseUrl, limit, vus, duration, maxPages, requestTimeout, metricsAddr }

/-- The settings of a command line and an environment. -/
def read (arguments : List String) (env : String → Option String) : Except Stop Settings := do
  let p ← readArguments .start arguments
  Settings.ofTexts (effective? p.given env)

/-- The configuration that settings make. -/
def Settings.config (idna : Url.Idna) (s : Settings) : Except Config.Fault Config := do
  let config ← Config.ofBaseUrl idna s.baseUrl
  return { config with
    limit := s.limit
    vus := s.vus
    duration := s.duration
    maxPages := s.maxPages
    requestTimeout := s.requestTimeout
    metricsAddr := s.metricsAddr }

/-- Why there is no configuration. -/
inductive Fault where
  | stop (cause : Stop)
  | config (cause : Config.Fault)

/-- The configuration of a command line and an environment. -/
def readConfig (idna : Url.Idna) (arguments : List String) (env : String → Option String) :
    Except Fault Config :=
  match read arguments env with
  | .error cause => .error (.stop cause)
  | .ok settings =>
    match settings.config idna with
    | .error cause => .error (.config cause)
    | .ok config => .ok config

end Options

end PageSweep
