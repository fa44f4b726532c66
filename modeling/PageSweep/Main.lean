import PageSweep.Cli
import Std.Time.DateTime.Timestamp

/-!
# Entry Point

Reads the environment and the clock, and prints what the program says. It opens no
connection, so the requests of a run go unanswered, and it brings no tables along, so
the server has to have a name in ASCII.
-/

open PageSweep

/-- The settings that the environment gives, by the names of their variables. -/
def readEnvironment : IO (List (String × String)) := do
  let mut found := []
  for setting in Setting.all do
    if let some value ← IO.getEnv setting.envName then
      found := found ++ [(setting.envName, value)]
  return found

/-- The instant that the clock shows. -/
def readClock : IO (Except Instant.Fault Instant) := do
  let stamp ← Std.Time.Timestamp.now
  return Instant.ofNanos stamp.toNanosecondsSinceUnixEpoch.val

/-- Runs the program. -/
def main (arguments : List String) : IO UInt32 := do
  let found ← readEnvironment
  match ← readClock with
  | .error fault =>
    IO.eprintln fault.message
    return 1
  | .ok now =>
    let output := Cli.execute .none arguments (fun name => found.lookup name) now
    IO.print output.stdout
    IO.eprint output.stderr
    return output.code.toUInt32
