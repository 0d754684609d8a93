import PathSort.Command
import PathSort.CommandLine.Arguments
import PathSort.Settings.Load

/-!
# Executing a command line

An invocation loads its settings, puts its flags over them and runs its command. What the process
then shows is either the command's text or one error, never both, beside the log of the run.
-/

namespace PathSort.CommandLine

set_option autoImplicit false

structure Environment where
  palette : Report.Palette
  /-- The level of the log, if one is asked for: a level, or no log at all. -/
  logLevel : Option (Option Level)
deriving DecidableEq, Repr

namespace Invocation

/-- Runs a command under given settings. A SELECT is ended by a line feed. -/
def runUnder (invocation : Invocation) (palette : Report.Palette) (settings : Settings) :
    Run Unit CommandError String :=
  match invocation.verb with
  | .explain => do
      let sql ← settings.explain invocation.tokens
      pure (sql ++ "\n")
  | .plan => settings.plan palette invocation.tokens

/-- Loads the settings and runs the command under them, with the flags over them. -/
def run (invocation : Invocation) (files : FileSystem) (palette : Report.Palette) :
    Run Unit CommandError String := do
  let settings ← Run.ofExcept
    ((Settings.load files invocation.config).mapError CommandError.settings)
  invocation.runUnder palette (settings.override invocation.overrides)

/-- The level up to which events are logged. The environment's level goes before the flag. -/
def logLimit (invocation : Invocation) (environment : Environment) : Option Level :=
  environment.logLevel.getD (some (if invocation.verbose then .debug else .warn))

end Invocation

structure Exit where
  code : Nat
  output : String
  error : Option CommandError
  log : List Event
deriving DecidableEq, Repr

namespace Exit

def saying (output : String) : Exit := ⟨0, output, none, []⟩

def ofOutcome (limit : Option Level) (outcome : Outcome Unit CommandError String) : Exit :=
  let log := outcome.events.filter (Event.isShown limit)
  match outcome.result with
  | .ok output => ⟨0, output, none, log⟩
  | .error error => ⟨1, "", some error, log⟩

end Exit

def versionText : String := "drizzle-sort 0.1.0\n"

def helpText : String :=
  String.join <| List.map (· ++ "\n")
    [ "Usage: drizzle-sort [OPTIONS] <COMMAND>",
      "",
      "Commands:",
      "  explain  Print the SELECT statement produced by the sort tokens",
      "  plan     Show the join shape, joins and ordering of each sort token",
      "  help     Print this message",
      "",
      "Options:",
      "  -c, --config <PATH>          Path to config file (default: drizzle-sort.toml)",
      "      --default-order <ORDER>  Direction for tokens without `,asc`/`,desc`",
      "      --ignore-unsupported     Skip dotted paths that match no join shape",
      "  -v, --verbose                Log resolution steps to stderr",
      "  -h, --help                   Print help",
      "  -V, --version                Print version" ]

def Halt.exit : Halt → Exit
  | misused => ⟨2, "", none, []⟩
  | help => .saying helpText
  | version => .saying versionText

def execute (files : FileSystem) (environment : Environment) (arguments : List String) : Exit :=
  match parse arguments with
  | .error halt => halt.exit
  | .ok invocation =>
      .ofOutcome (invocation.logLimit environment)
        (invocation.run files environment.palette ())

end PathSort.CommandLine
