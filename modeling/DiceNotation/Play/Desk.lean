import DiceNotation.Console.Markup
import DiceNotation.Play.Draws
import DiceNotation.Play.Generator
import DiceNotation.Play.Journal

/-!
# Plays

A play is an operation that draws numbers, makes remarks and shows things. What it has done stays done when
it fails later, so a failure leaves a desk behind as well.
-/

set_option autoImplicit false

namespace DiceNotation

/-- Everything that a play changes. The events are in reversed order. -/
structure Desk (State : Type) where
  source : State
  draws : Draws := {}
  journal : Journal := {}
  shown : List Console.Event := []
  deriving DecidableEq, Repr

def Desk.events {State : Type} (desk : Desk State) : List Console.Event :=
  desk.shown.reverse

/-- Operations on a desk that may fail. -/
abbrev Play (State : Type) := ExceptT Failure (StateM (Desk State))

namespace Play

variable {State : Type}

def on {Result : Type} (play : Play State Result) (desk : Desk State) :
    Except Failure Result × Desk State :=
  play.run.run desk

/-- A step that touches nothing on the desk. -/
def lift {Result : Type} (result : Except Failure Result) : Play State Result :=
  ExceptT.mk (pure result)

def draw (generator : Generator State) (low high : Int) : Play State Int :=
  ExceptT.mk fun desk =>
    match generator.draw desk.source low high with
    | (.ok value, source) =>
        (.ok value, { desk with source, draws := desk.draws.add low high })
    | (.error failure, source) => (.error failure, { desk with source })

/-- Makes a remark if the journal keeps remarks of its level. -/
def note (level : Level) (origin : Origin) (remark : Phrase) : Play State Unit :=
  ExceptT.mk fun desk =>
    if desk.journal.keeps level then
      match remark.write with
      | .ok text => (.ok (), { desk with journal := desk.journal.add { level, origin, text } })
      | .error failure => (.error failure, desk)
    else (.ok (), desk)

/-- Shows an event, unless the console refuses it. -/
def present (console : Console) (event : Console.Event) : Play State Unit :=
  ExceptT.mk fun desk =>
    if console.takes event then (.ok (), { desk with shown := event :: desk.shown })
    else (.error .unshowable, desk)

/-- The results of the same play, so many times in a row, after the results before, which are given last
first. A failure ends it at once, however many times were left. -/
def timesFrom {Result : Type} (play : Play State Result) :
    (count : Nat) → (before : List Result) → Play State (List Result)
  | 0, before => return before.reverse
  | count + 1, before => do
      let result ← play
      timesFrom play count (result :: before)

/-- The results of the same play, so many times in a row. -/
def times {Result : Type} (count : Nat) (play : Play State Result) : Play State (List Result) :=
  timesFrom play count []

end Play
end DiceNotation
