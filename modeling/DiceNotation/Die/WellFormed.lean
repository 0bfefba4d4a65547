import DiceNotation.Bag.Basic
import DiceNotation.Die.Checked

/-!
# Well-formed groups and bags

A clause fits a group when it leaves something to roll: a drop keeps a die, a reroll condition holds of some
faces and not of others, a cutoff moves some face. The bags that expressions stand for consist of such
groups, the first of them added.
-/

set_option autoImplicit false

namespace DiceNotation

/-- A drop that keeps at least one of `count` dice. A drop that keeps positions keeps all between the
lowest and the highest rolls that go. -/
def Drop.Fits (count : Nat) : Drop → Prop
  | .none => True
  | .lowest number => 0 ≤ number ∧ number < count
  | .highest number => 0 ≤ number ∧ number < count
  | .keeping positions =>
      ∃ lowest highest : Nat, lowest + highest < count ∧
        positions = positionsFrom lowest ((count : Int) - highest)

/-- A reroll of at most all dice, under a condition that some faces meet and others do not. -/
def Reroll.Fits (size : Int) (count : Nat) : Reroll → Prop
  | .never rerolls => rerolls = 0
  | .above rerolls threshold => 0 ≤ rerolls ∧ rerolls ≤ count ∧ 1 ≤ threshold ∧ threshold < size
  | .below rerolls threshold => 0 ≤ rerolls ∧ rerolls ≤ count ∧ 1 < threshold ∧ threshold ≤ size

/-- A cutoff whose bounds are in order and cut off a face each. -/
def Cutoff.Fits (size : Int) : Cutoff → Prop
  | .none => True
  | .minimum least => 1 < least ∧ least ≤ size
  | .maximum greatest => 1 ≤ greatest ∧ greatest < size
  | .between least greatest => 1 < least ∧ least ≤ greatest ∧ greatest < size

/-- A die group with at least one side and clauses that fit it. -/
structure Die.WellFormed (die : Die) : Prop where
  size : 1 ≤ die.size
  drop : die.drop.Fits die.count
  reroll : die.reroll.Fits die.size die.count
  cutoff : die.cutoff.Fits die.size

/-- A well-formed die group, or a bonus that is not negative. -/
def Group.WellFormed : Group → Prop
  | .dice die => die.WellFormed
  | .bonus flat => 0 ≤ flat.value

/-- A bag of at least one group, all well formed and the first one added. -/
structure Bag.WellFormed (bag : Bag) : Prop where
  first : ∃ group later, bag.groups = group :: later ∧ group.sign = .plus
  groups : ∀ group ∈ bag.groups, group.WellFormed

end DiceNotation
