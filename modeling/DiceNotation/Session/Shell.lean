import DiceNotation.Session.Commands
import DiceNotation.Text.Class

/-!
# The shell

The shell reads lines and rolls each of them. It ends at the end of its input, at an interruption, and at a
word for leaving; the lines after that are not read.
-/

set_option autoImplicit false

namespace DiceNotation.Shell

/-- What a reader of lines may get: a line, or an interruption. -/
inductive Input where
  | line (text : Text)
  | interruption
  deriving DecidableEq, Repr

def quitWords : List Text :=
  [Text.of "quit", Text.of "exit", Text.of "q"]

def isQuit (line : Text) : Bool :=
  quitWords.contains (Text.lower line)

variable {State : Type} (console : Console)

def ask (prompting : Bool) : Play State Unit :=
  if prompting then Display.showPrompt console else pure ()

/-- Rolls one trimmed line, or the default expression when it is empty. -/
def rollLine (generator : Generator State) (settings : Settings) (line : Text) :
    Play State (List Report) :=
  let expression := if line.isEmpty then settings.defaultExpression else line
  Session.roll console generator settings expression 1

/-- Takes one input, and says whether the shell goes on after it. -/
def step (generator : Generator State) (settings : Settings) : Input → Play State Bool
  | .interruption => return false
  | .line text =>
      let line := Text.trimmed Text.isBlank text
      if isQuit line then return false
      else do
        let _ ← rollLine console generator settings line
        return true

/-- Takes inputs, with a prompt before each one if wanted, and returns the ones that were not read. -/
def loop (generator : Generator State) (settings : Settings) (prompting : Bool) :
    List Input → Play State (List Input)
  | [] => do
      ask console prompting
      return []
  | input :: rest => do
      ask console prompting
      let goesOn ← step console generator settings input
      if goesOn then loop generator settings prompting rest else return rest

def run (generator : Generator State) (settings : Settings) (prompting : Bool)
    (inputs : List Input) : Play State (List Input) := do
  Display.showBanner console settings.defaultExpression
  loop console generator settings prompting inputs

end DiceNotation.Shell
