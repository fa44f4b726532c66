import PageSweep.Options.Setting
import PageSweep.Text.Terminal

/-!
# Help

The help page lists every setting with its environment variable, the variable's
current value and the default. The short page puts that on the line that says what
the setting is for, the long page below it. Flags and headings are bold on a
terminal.

## Main definitions

* `Help.short`, `Help.long`: The two pages.
* `Help.version`: The name and the version of the program.
-/

namespace PageSweep

namespace Help

/-- The name of the program. -/
def program : String := "disputes-bench"

/-- The name and the version of the program. -/
def version : String := program ++ " 0.1.0\n"

/-- How the program is called, with the given flags. -/
def usageOf (flags : List String) : String :=
  Terminal.bold "Usage:" ++ " " ++ Terminal.bold program ++
    String.join (flags.map fun flag => " " ++ Terminal.bold flag)

/-- How the program is called. -/
def usage : String := usageOf [] ++ " [OPTIONS]"

/-- Where a setting comes from if its flag is not given. -/
def sources (env : String → Option String) (s : Setting) : List String :=
  ("[env: " ++ s.envName ++ "=" ++ (env s.envName).getD "" ++ "]") ::
    (s.default?.map fun value => "[default: " ++ value ++ "]").toList

/-- A text of several lines, each but the first below the start of the first. -/
def indented (text : String) : String :=
  String.ofList (text.toList.flatMap fun c =>
    if c = '\n' then '\n' :: List.replicate 10 ' ' else [c])

/-- A flag with what it is for. -/
def entry (flag value about : String) : String :=
  flag ++ value ++ indented ("\n" ++ about) ++ "\n"

/-- The entry of a setting. -/
def settingEntry (s : Setting) (about : String) : String :=
  entry ("      " ++ Terminal.bold ("--" ++ s.flag)) (" <" ++ s.envName ++ ">") about

/-- The entry of a flag without a value. -/
def switchEntry (letter name about : String) : String :=
  entry ("  " ++ Terminal.bold ("-" ++ letter) ++ ", " ++ Terminal.bold ("--" ++ name)) "" about

/-- A setting on the short page. -/
def shortEntry (env : String → Option String) (s : Setting) : String :=
  settingEntry s (" ".intercalate (s.about :: sources env s))

/-- A setting on the long page. -/
def longEntry (env : String → Option String) (s : Setting) : String :=
  settingEntry s (s.about ++ "\n\n" ++ "\n".intercalate (sources env s)) ++ "\n"

/-- What stands before the entries. -/
def heading : String := usage ++ "\n\n" ++ Terminal.bold "Options:" ++ "\n"

/-- The short page. -/
def short (env : String → Option String) : String :=
  "Load generator for the paginated disputes events API\n\n" ++ heading ++
    String.join (Setting.all.map (shortEntry env)) ++
    switchEntry "h" "help" "Print help (see more with '--help')" ++
    switchEntry "V" "version" "Print version"

/-- The long page. -/
def long (env : String → Option String) : String :=
  "Command line and environment options.\n\n" ++
    "Every option can be given either as a long flag or through the environment variable " ++
    "of the same name, so the usual invocation is simply " ++
    "`BASE_URL=... VUS=8 disputes-bench`.\n\n" ++ heading ++
    String.join (Setting.all.map (longEntry env)) ++
    switchEntry "h" "help" "Print help (see a summary with '-h')" ++ "\n" ++
    switchEntry "V" "version" "Print version"

end Help

end PageSweep
