import PageSweep.Bench
import PageSweep.Options.Reader
import PageSweep.Report.Text
import PageSweep.Transport.Http

/-!
# The Command Line Program

The program reads its settings, runs the bench and prints the summary. Help and the
version are printed and end the program; a wrong argument ends it with code 2, and a
configuration that cannot be used with code 1 and a report of what lies behind it.
What is printed goes to no terminal.

## Main definitions

* `Cli.Output`: What the program prints, and its exit code.
* `Cli.offline`: The client of a program without a network.
* `Cli.execute`: The whole program.
-/

namespace PageSweep

namespace Cli

/-- What the program prints, and its exit code. -/
structure Output where
  code : UInt8
  stdout : String
  stderr : String

/-- The report of a configuration that cannot be used. The causes are numbered if
there is more than one. -/
def configReport (fault : Config.Fault) : String :=
  "Error: Invalid configuration\n\nCaused by:\n" ++ (match fault.cause? with
    | none => "    " ++ fault.message ++ "\n"
    | some cause => "    0: " ++ fault.message ++ "\n    1: " ++ cause ++ "\n")

/-- The exit code of a program that crashed. -/
def crashCode : UInt8 := 101

/-- What is printed when there is no configuration. -/
def refusal (env : String → Option String) : Options.Fault → Output
  | .stop .crash => ⟨crashCode, "", ""⟩
  | .stop cause =>
    if cause.asked then ⟨0, cause.stream env, ""⟩ else ⟨2, "", cause.stream env⟩
  | .config cause => ⟨1, "", configReport cause⟩

/-- The client of a program without a network: a request ends when it has waited long
enough. -/
def offline (config : Config) : Bench.Client Unit where
  serve := fun server _ =>
    (Http.exchange config.requestTimeout (Http.Link.deliver .down .none), server)
  observe := Http.report
  register := Http.register

/-- The program, started at the instant `now` without a network. -/
def execute (idna : Url.Idna) (arguments : List String) (env : String → Option String)
    (now : Instant) : Output :=
  match Options.readConfig idna arguments env with
  | .error fault => refusal env fault
  | .ok config =>
    match (Bench.summary (offline config) config now ()).toOption.bind Summary.text? with
    | some text => ⟨0, "\n" ++ text ++ "\n", ""⟩
    | none => ⟨crashCode, "", ""⟩

end Cli

end PageSweep
