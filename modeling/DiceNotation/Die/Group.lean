import DiceNotation.Die.Clause
import DiceNotation.Die.Sign

/-!
# Groups

A group of a bag is a number of equal dice with their clauses, or a fixed bonus.
-/

set_option autoImplicit false

namespace DiceNotation

/-- A number of dice with `size` sides each, and the clauses that apply to their rolls. -/
structure Die where
  size : Int
  count : Nat := 1
  drop : Drop := .none
  reroll : Reroll := .never 0
  cutoff : Cutoff := .none
  sign : Sign := .plus
  explosive : Bool := false
  deriving DecidableEq, Repr

/-- How many rolls the group leaves when none explodes. -/
def Die.keptCount (die : Die) : Int :=
  die.drop.kept die.count

/-- A fixed number that is added or subtracted. -/
structure Bonus where
  value : Int
  sign : Sign := .plus
  deriving DecidableEq, Repr

/-- What the bonus contributes to a total. -/
def Bonus.signed (bonus : Bonus) : Int :=
  bonus.sign.apply 0 bonus.value

/-- A part of a bag. -/
inductive Group where
  | dice (die : Die)
  | bonus (bonus : Bonus)
  deriving DecidableEq, Repr

namespace Group

def sign : Group → Sign
  | .dice die => die.sign
  | .bonus flat => flat.sign

def withSign (sign : Sign) : Group → Group
  | .dice die => .dice { die with sign }
  | .bonus flat => .bonus { flat with sign }

end Group
end DiceNotation
