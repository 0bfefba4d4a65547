/-!
# Clauses of a die group

Three families of clauses change what a group of dice yields: which rolls are dropped, which dice are
rolled again, and how each roll is clamped. A clause is data; whether it fits a group is said elsewhere.
-/

set_option autoImplicit false

namespace DiceNotation

/-! ## Drops -/

/-- Which rolls of a group do not count. -/
inductive Drop where
  | none
  | lowest (number : Int)
  | highest (number : Int)
  /-- Only the rolls at these positions of the ascending order count; a negative position counts from
  the end. -/
  | keeping (positions : List Int)
  deriving DecidableEq, Repr

/-- How many of `count` rolls are left. -/
def Drop.kept (count : Int) : Drop → Int
  | .none => count
  | .lowest number => max (count - number) 0
  | .highest number => max (count - number) 0
  | .keeping positions => positions.length

/-! ## Rerolls -/

/-- Which dice are rolled a second time, and at most how many. -/
inductive Reroll where
  | never (count : Int)
  | above (count threshold : Int)
  | below (count threshold : Int)
  deriving DecidableEq, Repr

namespace Reroll

/-- The most dice that are rolled again. -/
def count : Reroll → Int
  | never count => count
  | above count _ => count
  | below count _ => count

/-- Whether a die that shows `value` is to be rolled again. -/
def qualifies (value : Int) : Reroll → Bool
  | never _ => false
  | above _ threshold => threshold < value
  | below _ threshold => value < threshold

end Reroll

/-! ## Cutoffs -/

/-- The interval into which each roll is moved. -/
inductive Cutoff where
  | none
  | minimum (least : Int)
  | maximum (greatest : Int)
  | between (least greatest : Int)
  deriving DecidableEq, Repr

namespace Cutoff

/-- The least and the greatest value that a clamped roll of a die with `size` sides can show. -/
def bounds (size : Int) : Cutoff → Int × Int
  | none => (1, size)
  | minimum least => (least, size)
  | maximum greatest => (1, greatest)
  | between least greatest => (least, greatest)

/-- A roll moved to the nearest value inside the cutoff; the upper bound goes first when the bounds are
the wrong way round. -/
def clamp (value : Int) : Cutoff → Int
  | none => value
  | minimum least => max value least
  | maximum greatest => min value greatest
  | between least greatest =>
      if greatest < value then greatest else if value < least then least else value

end Cutoff
end DiceNotation
