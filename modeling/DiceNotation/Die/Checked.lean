import DiceNotation.Die.Group
import DiceNotation.Failure

/-!
# Building a group step by step

Each operation adds one clause to a die group if the clause fits the group, and says why it does not
otherwise. The checks are named apart, because reading an expression makes some of them early.
-/

set_option autoImplicit false

namespace DiceNotation

/-! ## Checks -/

/-- At least one die has to stay. -/
def checkDrop (dropped count : Int) : Except Failure Unit :=
  if count ≤ dropped then reject (.excessiveDrop dropped count) else .ok ()

/-- Some face, but not every face, lies above the threshold. -/
def checkRerollAbove (threshold size : Int) : Except Failure Unit :=
  if 1 ≤ threshold ∧ threshold < size then .ok () else reject (.thresholdOutOfRange threshold size)

/-- Some face, but not every face, lies below the threshold. -/
def checkRerollBelow (threshold size : Int) : Except Failure Unit :=
  if 1 < threshold ∧ threshold ≤ size then .ok () else reject (.thresholdOutOfRange threshold size)

/-- No more rerolls than dice. -/
def checkRerollCount (rerolls count : Int) : Except Failure Unit :=
  if count < rerolls then reject (.excessiveReroll rerolls count) else .ok ()

/-- A greatest face below the faces of the die. -/
def checkMaximum (maximum size : Int) : Except Failure Unit :=
  if 1 ≤ maximum ∧ maximum < size then .ok ()
  else reject (.cutoffOutOfRange (Text.of "maximum") maximum size)

/-- A least face above the lowest face of the die. -/
def checkMinimum (minimum size : Int) : Except Failure Unit :=
  if 1 < minimum ∧ minimum ≤ size then .ok ()
  else reject (.cutoffOutOfRange (Text.of "minimum") minimum size)

/-! ## Positions -/

/-- The whole numbers from `first` on that lie below `bound`. -/
def positionsFrom (first bound : Int) : List Int :=
  (List.range (bound - first).toNat).map fun offset : Nat => first + (offset : Int)

/-- The positions that stay when so many of the lowest and of the highest rolls go. -/
def keptPositions (lowest highest : Int) (count : Nat) : Except Failure (List Int) :=
  if positionLimit < ((count : Int) - highest - lowest).toNat then .error .tooManyPositions
  else .ok (positionsFrom lowest (count - highest))

namespace Die

def plain (size : Int) (count : Nat) : Die :=
  { size, count }

/-! ## Drops -/

/-- Keep the middle of the ascending order. -/
def keepMiddle (die : Die) (lowest highest : Int) : Except Failure Die := do
  checkDrop (lowest + highest) die.count
  let positions ← keptPositions lowest highest die.count
  return { die with drop := .keeping positions }

/-- Drop the lowest rolls, and the highest ones that the group drops already. -/
def dropLowest (die : Die) (number : Int) : Except Failure Die :=
  match die.drop with
  | .lowest _ | .keeping _ => reject (.duplicateDrop (Text.of "dl/kh"))
  | .highest highest => do
      checkDrop number die.count
      die.keepMiddle number highest
  | .none => do
      checkDrop number die.count
      return { die with drop := .lowest number }

/-- Drop the highest rolls, and the lowest ones that the group drops already. -/
def dropHighest (die : Die) (number : Int) : Except Failure Die :=
  match die.drop with
  | .highest _ | .keeping _ => reject (.duplicateDrop (Text.of "dh/kl"))
  | .lowest lowest => do
      checkDrop number die.count
      die.keepMiddle lowest number
  | .none => do
      checkDrop number die.count
      return { die with drop := .highest number }

/-- Drop rolls on both sides of a group that drops none. -/
def dropEnds (die : Die) (lowest highest : Int) : Except Failure Die :=
  match die.drop with
  | .none => die.keepMiddle lowest highest
  | _ => reject .conflictingDrops

/-! ## Rerolls -/

def rerollAbove (die : Die) (threshold count : Int) : Except Failure Die := do
  checkRerollAbove threshold die.size
  checkRerollCount count die.count
  return { die with reroll := .above count threshold }

def rerollBelow (die : Die) (threshold count : Int) : Except Failure Die := do
  checkRerollBelow threshold die.size
  checkRerollCount count die.count
  return { die with reroll := .below count threshold }

/-! ## Cutoffs -/

def raiseTo (die : Die) (minimum : Int) : Except Failure Die := do
  checkMinimum minimum die.size
  return { die with cutoff := .minimum minimum }

def lowerTo (die : Die) (maximum : Int) : Except Failure Die := do
  checkMaximum maximum die.size
  return { die with cutoff := .maximum maximum }

def clampBetween (die : Die) (minimum maximum : Int) : Except Failure Die := do
  checkMinimum minimum die.size
  checkMaximum maximum die.size
  if maximum < minimum then
    reject (.invertedCutoff minimum maximum)
  else
    return { die with cutoff := .between minimum maximum }

end Die
end DiceNotation
