import DiceNotation.CommandLine.Arguments
import DiceNotation.Session.Shell

/-!
# The command line

One command with an expression, or the shell. Wrong usage is told apart from an expression that could not be
used: the exit codes are two and one.
-/

set_option autoImplicit false

namespace DiceNotation.CommandLine

/-- What the command line asks for; information is about the program itself. -/
inductive Command where
  | information
  | roll (expression : Text) (times : Int)
  | range (expression : Text)
  | distribution (expression : Text) (rolls : Option Int) (asCounts : Bool)
  | shell
  deriving DecidableEq, Repr

/-- A command, and whether all remarks are wanted. -/
structure Request where
  verbose : Bool
  command : Command
  deriving DecidableEq, Repr

def helpOption : OptionSpec :=
  { long := Text.of "help" }

/-- The options that set up the shell to complete commands, or show how. -/
def completionOptions : List OptionSpec :=
  [{ long := Text.of "install-completion" }, { long := Text.of "show-completion" }]

def mainOptions : List OptionSpec :=
  [helpOption, { long := Text.of "verbose", short := some 'v' }] ++ completionOptions

/-- Whether one of the options before the name of the command asks for information. -/
def asksForInformation (parsed : Parsed) : Bool :=
  (helpOption :: completionOptions).any fun spec => parsed.has spec.long

def timesOption : OptionSpec :=
  { long := Text.of "times", short := some 't', takesValue := true }

def rollsOption : OptionSpec :=
  { long := Text.of "rolls", short := some 'r', takesValue := true }

def countsOption : OptionSpec :=
  { long := Text.of "counts", short := some 'c' }

def singleOperand? (parsed : Parsed) : Option Text :=
  match parsed.operands with
  | [operand] => some operand
  | _ => none

/-- The value of an option that has to be at least one: nothing when the option is not given, and no result
when it is given with another value. -/
def positiveOption? (parsed : Parsed) (spec : OptionSpec) : Option (Option Int) :=
  match parsed.value? spec.long with
  | none => some none
  | some value => (positive? value).map some

/-- The command of a name and its arguments. Help is given whatever the operands and values are. -/
def command? (name : Text) (arguments : List Text) : Option Command :=
  if name == Text.of "roll" then do
    let parsed ← parse? [helpOption, timesOption] true arguments
    if parsed.has helpOption.long then return .information
    let times ← positiveOption? parsed timesOption
    let expression ← singleOperand? parsed
    return .roll expression (times.getD 1)
  else if name == Text.of "range" then do
    let parsed ← parse? [helpOption] true arguments
    if parsed.has helpOption.long then return .information
    let expression ← singleOperand? parsed
    return .range expression
  else if name == Text.of "dist" then do
    let parsed ← parse? [helpOption, rollsOption, countsOption] true arguments
    if parsed.has helpOption.long then return .information
    let rolls ← positiveOption? parsed rollsOption
    let expression ← singleOperand? parsed
    return .distribution expression rolls (parsed.has countsOption.long)
  else if name == Text.of "shell" then do
    let parsed ← parse? [helpOption] true arguments
    if parsed.has helpOption.long then return .information
    if parsed.operands.isEmpty then return .shell else none
  else none

/-- What the arguments ask for, unless they are wrong. Where the name of a command should stand there may be
options after two hyphens alone, which can still ask for information. -/
def request? (arguments : List Text) : Option Request := do
  let parsed ← parse? mainOptions false arguments
  let verbose := parsed.has (Text.of "verbose")
  if asksForInformation parsed then return { verbose, command := .information }
  match parsed.operands with
  | [] => none
  | name :: rest =>
      if isOption name then do
        let late ← parse? mainOptions false parsed.operands
        if asksForInformation late then return { verbose, command := .information } else none
      else
        let command ← command? name rest
        return { verbose, command }

/-- How a run ends. -/
inductive Outcome where
  | done
  | failed
  | usage
  deriving DecidableEq, Repr

def Outcome.exitCode : Outcome → Nat
  | done => 0
  | failed => 1
  | usage => 2

variable {State : Type} (console : Console)

/-- Runs a command with the given lines of input, and says whether it found its expression usable. -/
def Command.run (generator : Generator State) (settings : Settings) (inputs : List Shell.Input) :
    Command → Play State Bool
  | .information => return true
  | .roll expression times => do
      let reports ← Session.roll console generator settings expression times
      return !reports.isEmpty
  | .range expression => do
      let span ← Session.range console expression
      return span.isSome
  | .distribution expression rolls asCounts => do
      let shares ← Session.distribution console generator settings expression rolls asCounts
      return shares.any fun shares => !shares.isEmpty
  | .shell => do
      let _ ← Shell.run console generator settings true inputs
      return true

/-- Runs the command line on a desk. A failure of any kind counts as an expression that cannot be used. -/
def run (generator : Generator State) (settings : Settings) (arguments : List Text)
    (inputs : List Shell.Input) (desk : Desk State) : Outcome × Desk State :=
  match request? arguments with
  | none => (.usage, desk)
  | some request =>
      let threshold := if request.verbose then Level.debug else Level.warning
      let desk := { desk with journal := { desk.journal with threshold } }
      match (request.command.run console generator settings inputs).on desk with
      | (.ok true, desk) => (.done, desk)
      | (.ok false, desk) => (.failed, desk)
      | (.error _, desk) => (.failed, desk)

end DiceNotation.CommandLine
