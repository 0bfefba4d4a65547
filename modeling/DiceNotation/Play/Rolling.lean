import DiceNotation.Bag.Basic
import DiceNotation.Play.Desk

/-!
# Rolling

The dice of a group are rolled with their explosions, some are rolled again, each roll is clamped, and then
some are dropped. The rolls that stay are added up.
-/

set_option autoImplicit false

namespace DiceNotation

variable {State : Type}

/-- The most extra rolls of an exploding die unless a session says otherwise. -/
def defaultExplosionLimit : Int := 100

/-! ## Explosions -/

/-- A chain of rolls that goes on while the die shows its highest face and extra rolls are left. The rolls
before are given last first. A chain that stops for want of extra rolls is remarked on. -/
def chainFrom (generator : Generator State) (size limit : Int) :
    (extra : Nat) → (before : List Int) → Play State (List Int)
  | 0, before => do
      let value ← Play.draw generator 1 size
      if value = size then
        Play.note .warning .rolling
          [.say "Explosion chain on a d", .number size, .say " stopped after ", .number limit,
            .say " extra rolls."]
      return (value :: before).reverse
  | extra + 1, before => do
      let value ← Play.draw generator 1 size
      if value = size then chainFrom generator size limit extra (value :: before)
      else return (value :: before).reverse

/-- The rolls of one exploding die, with at most `limit` extra ones. -/
def explode (generator : Generator State) (size limit : Int) : Play State (List Int) :=
  chainFrom generator size limit limit.toNat []

/-! ## The steps for one group -/

/-- The rolls of all dice of a group before any clause applies. -/
def rollDice (generator : Generator State) (die : Die) (limit : Int) : Play State (List Int) :=
  if die.explosive then do
    let chains ← Play.times die.count (explode generator die.size limit)
    return chains.flatten
  else
    Play.times die.count (Play.draw generator 1 die.size)

/-- One pass from left to right that rolls qualifying dice again while rerolls are left. The values already
passed are given last first. -/
def rollAgainFrom (generator : Generator State) (die : Die) :
    (values : List Int) → (left : Nat) → (passed : List Int) → Play State (List Int)
  | [], _, passed => return passed.reverse
  | values, 0, passed => return passed.reverse ++ values
  | value :: values, left + 1, passed =>
      if die.reroll.qualifies value then do
        let fresh ← Play.draw generator 1 die.size
        rollAgainFrom generator die values left (fresh :: passed)
      else
        rollAgainFrom generator die values (left + 1) (value :: passed)

/-- The values after the reroll clause; a fresh value is not looked at again. -/
def rollAgain (generator : Generator State) (values : List Int) (die : Die) :
    Play State (List Int) :=
  rollAgainFrom generator die values die.reroll.count.toNat []

def clampAll (values : List Int) (die : Die) : List Int :=
  values.map fun value => die.cutoff.clamp value

def ascending (values : List Int) : List Int :=
  values.mergeSort fun first second => first ≤ second

def descending (values : List Int) : List Int :=
  values.mergeSort fun first second => second ≤ first

/-- The entry at a position, if there is one; a negative position counts from the end. -/
def entryAt? (values : Array Int) (position : Int) : Option Int :=
  let index := if position < 0 then position + values.size else position
  if index < 0 then none else values[index.toNat]?

/-- The entry at a position. A position that no list can have is told apart from one that this list lacks. -/
def entryAt (values : Array Int) (position : Int) : Except Failure Int :=
  match entryAt? values position with
  | some value => .ok value
  | none => .error (if fitsWord position then .noSuchPosition else .positionTooLarge)

/-- The values after the drop clause: the highest ones in descending order, or the lowest ones or the ones
at the kept positions in ascending order. -/
def keepRolls (values : List Int) (die : Die) : Except Failure (List Int) :=
  match die.drop with
  | .none => .ok values
  | .lowest number => .ok ((descending values).take (values.length - number).toNat)
  | .highest number => .ok ((ascending values).take (values.length - number).toNat)
  | .keeping positions =>
      let sorted := (ascending values).toArray
      positions.mapM (entryAt sorted)

/-- The values of one group that count. -/
def rollGroup (generator : Generator State) (die : Die) (limit : Int) : Play State (List Int) := do
  let raw ← rollDice generator die limit
  let rerolled ← rollAgain generator raw die
  Play.lift (keepRolls (clampAll rerolled die) die)

/-! ## Totals -/

def totalOf (values : List Int) : Int :=
  values.foldr (fun value total => value + total) 0

def addToTotal (generator : Generator State) (limit : Int) (total : Int) :
    Group → Play State Int
  | .bonus flat => return total + flat.signed
  | .dice die => do
      let values ← rollGroup generator die limit
      return die.sign.apply total (totalOf values)

/-- The grand total of one roll of a bag. -/
def rollTotal (generator : Generator State) (bag : Bag) (limit : Int) : Play State Int :=
  bag.groups.foldlM (addToTotal generator limit) 0

end DiceNotation
