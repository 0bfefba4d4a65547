import DiceNotation.Failure

/-!
# Generators

A generator answers requests for a whole number between two bounds. It may fail, and its state goes on
from a failure as from an answer.
-/

set_option autoImplicit false

namespace DiceNotation

/-- A source of numbers with states of type `State`. -/
structure Generator (State : Type) where
  draw : State → (low high : Int) → Except Failure Int × State

namespace Generator

/-- A generator that answers every request whose bounds are in order, and answers within them. -/
def Fair {State : Type} (generator : Generator State) : Prop :=
  ∀ state low high, low ≤ high →
    ∃ value next, generator.draw state low high = (.ok value, next) ∧ low ≤ value ∧ value ≤ high

end Generator

/-- The two ways in which numbers come about here: given in advance, or computed from a seed. -/
inductive Source where
  | script (remaining : List Int)
  | congruential (seed : Int)
  deriving DecidableEq, Repr

namespace Source

/-- The next seed of the linear congruential sequence of 64-bit numbers. -/
def nextSeed (seed : Int) : Int :=
  (seed * 6364136223846793005 + 1442695040888963407).emod 0x10000000000000000

/-- A script answers with its next number whatever the bounds; a congruential source takes the upper bits
of its next seed modulo the size of the interval. An empty interval has no answer. -/
def draw (source : Source) (low high : Int) : Except Failure Int × Source :=
  if high < low then (rejectDraw low high, source)
  else match source with
    | script [] => (.error .noMoreDraws, script [])
    | script (value :: remaining) => (.ok value, script remaining)
    | congruential seed =>
        let next := nextSeed seed
        (.ok (low + (next / 0x200000000).emod (high - low + 1)), congruential next)

def generator : Generator Source :=
  { draw }

end Source
end DiceNotation
