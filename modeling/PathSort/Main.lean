import PathSort.CommandLine.Execution

/-!
# The program

Reads the arguments, the environment and the one settings file that the arguments lead to, and
writes what executing the command line leaves.
-/

open PathSort PathSort.CommandLine

set_option autoImplicit false

/-- The operating system's reason in its own words, with its number. The number may be negated. -/
def osReason (number : UInt32) (details : String) : String :=
  let plain := if number < 0x80000000 then number else 0 - number
  details.capitalize ++ " (os error " ++ Nat.repr plain.toNat ++ ")"

def readReason : IO.Error → String
  | .inappropriateType _ number details => osReason number details
  | .permissionDenied _ number details => osReason number details
  | .otherError number details => osReason number details
  | error => toString error

def readPath (path : String) : IO FileRead := do
  try
    return .bytes (← IO.FS.readBinFile path)
  catch
    | .noFileOrDirectory .. => return .absent
    | error => return .failed (readReason error)

def readEnvironment : IO Environment := do
  let terminal ← (← IO.getStdout).isTty
  let palette := Report.Palette.choose (← IO.getEnv "CLICOLOR_FORCE") (← IO.getEnv "NO_COLOR")
    (← IO.getEnv "CLICOLOR") terminal
  return ⟨palette, (← IO.getEnv "RUST_LOG").bind Level.ofSetting?⟩

/-- Runs the program. A command line that is misused is answered by how the program is used. -/
def main (arguments : List String) : IO UInt32 := do
  let environment ← readEnvironment
  let path := match CommandLine.parse arguments with
    | .ok invocation => invocation.config.getD Settings.usualPath
    | .error _ => Settings.usualPath
  let read ← readPath path
  let exit := execute (fun _ => read) environment arguments
  for event in exit.log do
    IO.eprint event.logText
  IO.print exit.output
  if let some error := exit.error then
    IO.eprintln (environment.palette.errorLine error.message)
  if exit.code = 2 then IO.eprint helpText
  return exit.code.toUInt32
