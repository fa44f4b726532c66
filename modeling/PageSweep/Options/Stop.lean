import PageSweep.Options.Help
import PageSweep.Text.Similarity

/-!
# Stops

Reading the command line stops without settings when help or the version is asked
for, or when an argument is wrong. A message about a wrong argument shows how the
program is called; an unknown flag that looks like a known one brings a tip. What
the user wrote and the names of flags stand out on a terminal.

## Main definitions

* `Options.Stop`: Why reading stops.
* `Options.Stop.styled`: What is printed on a terminal then.
* `Options.Stop.text`, `Options.Stop.stream`: What is seen of it.
* `Options.similar?`: The known flag that an unknown one looks like.
-/

namespace PageSweep

namespace Options

/-- Why reading the command line stops. -/
inductive Stop where
  /-- Help was asked for. -/
  | help (detailed : Bool)
  | version
  /-- An argument that belongs to no flag. -/
  | unexpected (argument : String)
  /-- A long flag that does not exist, after flags that do. -/
  | unknownFlag (name : String) (used : List Setting)
  /-- A value for a flag that takes none. -/
  | needlessValue (flag value : String) (used : List Setting)
  /-- A flag without its value. -/
  | missingValue (setting : Setting)
  /-- A flag given twice. -/
  | repeated (setting : Setting)
  | invalidValue (setting : Setting) (value : String) (cause : Setting.Fault)
  /-- A value that ends the program at once. -/
  | crash

/-- The stop because of a wrong value. -/
def Stop.ofFault (setting : Setting) (value : String) (cause : Setting.Fault) : Stop :=
  if cause.crashes then .crash else .invalidValue setting value cause

/-- The long flags, each with the form in which it is shown. -/
def flags : List (String × String) :=
  Setting.all.map (fun s => (s.flag, s.shown)) ++ [("help", "--help"), ("version", "--version")]

/-- The known flag most like `name`, if one is like it at all. -/
def similar? (name : String) : Option (String × String) :=
  let alike := flags.filter fun (flag, _) => 0.7 < Similarity.jaro name flag
  alike.foldl (fun best entry =>
    match best with
    | none => some entry
    | some b =>
      if Similarity.jaro name b.1 ≤ Similarity.jaro name entry.1 then some entry else best) none

/-- How the program is called with the flags shown. -/
def usageOf (shown : List String) : String :=
  if shown.isEmpty then Help.usage else Help.usageOf shown

/-- What the user wrote, in quotes. -/
def wrong (text : String) : String := "'" ++ Terminal.yellow text ++ "'"

/-- What the program knows, in quotes. -/
def known (text : String) : String := "'" ++ Terminal.bold text ++ "'"

/-- What follows the first lines of a message. -/
def hint : String := "\n\nFor more information, try " ++ known "--help" ++ ".\n"

/-- A message about a wrong argument. -/
def message (text : String) : String :=
  Terminal.bold "error:" ++ " " ++ text ++ hint

/-- What is printed about a stop on a terminal. A crash is not reported here. -/
def Stop.styled (env : String → Option String) : Stop → String
  | .help detailed => if detailed then Help.long env else Help.short env
  | .version => Help.version
  | .unexpected argument =>
    message ("unexpected argument " ++ wrong argument ++ " found\n\n" ++ usageOf [])
  | .unknownFlag name used =>
    let shown := used.map Setting.shown
    message ("unexpected argument " ++ wrong ("--" ++ name) ++ " found\n\n" ++
      (match similar? name with
      | none => usageOf shown
      | some (flag, form) =>
        "  tip: a similar argument exists: " ++ known ("--" ++ flag) ++ "\n\n" ++
          usageOf (if shown.contains form then shown else shown ++ [form])))
  | .needlessValue flag value used =>
    message ("unexpected value " ++ wrong value ++ " for " ++ known ("--" ++ flag) ++
      " found; no more were expected\n\n" ++
      usageOf (used.map Setting.shown ++ ["--" ++ flag]))
  | .missingValue s =>
    message ("a value is required for " ++ known s.shown ++ " but none was supplied")
  | .repeated s =>
    message ("the argument " ++ known s.shown ++ " cannot be used multiple times\n\n" ++
      usageOf [])
  | .invalidValue s value cause =>
    message ("invalid value " ++ wrong value ++ " for " ++ known s.shown ++ ": " ++
      cause.message)
  | .crash => ""

/-- What is seen of what is printed about a stop. -/
def Stop.text (env : String → Option String) (stop : Stop) : String :=
  Terminal.visible (stop.styled env)

/-- What is seen of it where it is sent as a stream. -/
def Stop.stream (env : String → Option String) (stop : Stop) : String :=
  Terminal.streamed (stop.styled env)

/-- Whether a stop is what the caller asked for. -/
def Stop.asked : Stop → Bool
  | .help _ => true
  | .version => true
  | _ => false

end Options

end PageSweep
