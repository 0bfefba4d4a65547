import DiceNotation.CommandLine.Basic
import DiceNotation.Proofs.Session.Commands

/-!
# What all commands accept

The commands agree on which expressions they reject, and on which rejections they cannot report. An accepted expression
leaves each of them with something to write, and there they differ: a roll writes totals, a range writes its ends, and a
distribution also writes a mean, which has to be a binary64 number.
-/

set_option autoImplicit false

namespace DiceNotation.CommandLine

variable {State : Type} {console : Console} {generator : Generator State} {settings : Settings} {arguments : List Text}
  {inputs : List Shell.Input} {expression : Text} {bag : Bag} {desk finish : Desk State}

/-! ## Commands -/

/-- The level from which on remarks are kept. -/
def Request.level (request : Request) : Level :=
  if request.verbose then .debug else .warning

namespace Command

/-- The expression of a command that has one. -/
def expression? : Command → Option Text
  | roll expression _ | range expression | distribution expression _ _ => some expression
  | information | shell => none

/-- What a command on an accepted expression remarks on and shows can be written. -/
def Fits (bag : Bag) (expression : Text) (settings : Settings) (threshold : Level) : Command → Prop
  | roll _ _ => bag.RollFits expression settings threshold
  | range _ => bag.RangeFits expression threshold
  | distribution _ rolls _ => bag.DistributionFits expression settings (rolls.getD settings.defaultRolls) threshold
  | information | shell => True

end Command

end DiceNotation.CommandLine
