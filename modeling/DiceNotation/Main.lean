import DiceNotation.CommandLine.Basic
import DiceNotation.Console.Plain

/-!
# The program

The command line over the standard streams. The shell answers each line before it reads the next one; all else
runs in one piece.
-/

set_option autoImplicit false

namespace DiceNotation.Main

/-- Writes what has been shown and remarked on, and clears it from the desk. -/
def flush (desk : Desk Source) : IO (Desk Source) := do
  let output ← IO.getStdout
  let errors ← IO.getStderr
  for event in desk.events do
    output.putStr (String.ofList event.plain)
  output.flush
  for remark in desk.journal.remarks do
    errors.putStrLn (String.ofList remark.text)
  return { desk with draws := {}, shown := [], journal := { desk.journal with reversed := [] } }

/-- Writes why the shell could not go on. -/
def breakOff (failure : Failure) : IO CommandLine.Outcome := do
  (← IO.getStderr).putStrLn ("The shell ended with a failure: " ++ reprStr failure)
  return .failed

/-- Reads and answers lines until the shell ends, and says how it ended. -/
partial def converse (settings : Settings) (desk : Desk Source) : IO CommandLine.Outcome := do
  let (asked, prompted) := (Shell.ask .matching true).on desk
  let prompted ← flush prompted
  if let .error failure := asked then return ← breakOff failure
  let line ← (← IO.getStdin).getLine
  if line.isEmpty then return .done
  let (result, answered) :=
    (Shell.step .matching Source.generator settings (.line line.toList)).on prompted
  let answered ← flush answered
  match result with
  | .ok true => converse settings answered
  | .ok false => return .done
  | .error failure => breakOff failure

def runShell (settings : Settings) (desk : Desk Source) : IO CommandLine.Outcome := do
  let (shown, welcomed) :=
    (Display.showBanner .matching settings.defaultExpression).on desk
  let welcomed ← flush welcomed
  match shown with
  | .ok () => converse settings welcomed
  | .error failure => breakOff failure

/-- Runs the command line with a source seeded from the clock. -/
def run (arguments : List String) : IO UInt32 := do
  let seed ← IO.monoNanosNow
  let settings : Settings := {}
  let desk : Desk Source := { source := .congruential seed }
  let arguments := arguments.map String.toList
  let outcome ← match CommandLine.request? arguments with
    | some { verbose, command := .shell } =>
        let threshold := if verbose then Level.debug else Level.warning
        runShell settings { desk with journal := { threshold } }
    | _ =>
        let (outcome, finished) := CommandLine.run .matching Source.generator settings arguments [] desk
        let _ ← flush finished
        pure outcome
  return outcome.exitCode.toUInt32

end DiceNotation.Main

def main (arguments : List String) : IO UInt32 :=
  DiceNotation.Main.run arguments
