import DiceNotation.Bag.Expression
import DiceNotation.Console.Display

/-!
# Commands of a session

Each command reads an expression, shows what it finds, and returns it. A rejected expression is reported, and
the command then returns nothing; any other failure ends the command, also one to show something. A session is told
which expression an empty line stands for, how long explosions go on, how many rolls make a distribution, and whether
single rolls are shown.
-/

set_option autoImplicit false

namespace DiceNotation

/-- The settings of a session, with their usual values. -/
structure Settings where
  defaultExpression : Text := Text.of "1d20"
  explosionLimit : Int := defaultExplosionLimit
  defaultRolls : Int := 10000
  showRolls : Bool := true
  deriving DecidableEq, Repr

variable {State : Type}

/-- The remark on a bag that was read. -/
def Bag.parsedRemark (expression : Text) (bag : Bag) : Phrase :=
  [.say "Parsed ", .word (Text.quoted expression), .say " into ", .number bag.groups.length,
    .say " group(s), range (", .number bag.range.low, .say ", ", .number bag.range.high, .say ")."]

/-- Reads an expression and remarks on what it is. -/
def Bag.read (expression : Text) : Play State Bag := do
  let bag ← Play.lift (Bag.ofText expression)
  Play.note .debug .reading (parsedRemark expression bag)
  return bag

namespace Session

variable (console : Console)

def readBag (expression : Text) : Play State (Option Bag) :=
  tryCatch (do
    let bag ← Bag.read expression
    return some bag)
  fun failure => match failure with
    | .rejected error => do
        Play.note .info .session
          ([.say "Could not parse ", .word (Text.quoted expression), .say ": "] ++ error.message)
        Display.showError console expression error
        return none
    | _ => throw failure

def rollOnce (generator : Generator State) (settings : Settings) (bag : Bag) :
    Play State Report := do
  let report ← Report.roll generator bag settings.explosionLimit
  Display.showRoll console bag report settings.showRolls
  return report

def roll (generator : Generator State) (settings : Settings) (expression : Text) (times : Int) :
    Play State (List Report) := do
  match ← readBag console expression with
  | none => return []
  | some bag => Play.times times.toNat (rollOnce console generator settings bag)

def range (expression : Text) : Play State (Option Span) := do
  match ← readBag console expression with
  | none => return none
  | some bag =>
      Display.showRange console bag
      return some bag.range

/-- Shows the distribution of an expression as counts or as percentages. -/
def distribution (generator : Generator State) (settings : Settings) (expression : Text)
    (rolls : Option Int) (asCounts : Bool) : Play State (Option Display.Shares) := do
  match ← readBag console expression with
  | none => return none
  | some bag =>
      let rolls := rolls.getD settings.defaultRolls
      let counts ← Distribution.sample generator bag rolls settings.explosionLimit none
      let shares ← if asCounts then pure (Display.Shares.counts counts) else do
        let percentages ← Play.lift (Distribution.percentages counts rolls)
        pure (.percentages percentages)
      Display.showDistribution console bag counts shares rolls
      return some shares

end Session
end DiceNotation
