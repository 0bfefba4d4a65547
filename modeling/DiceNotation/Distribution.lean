import DiceNotation.Number.Binary64
import DiceNotation.Play.Rolling
import Std.Data.TreeMap

/-!
# Distributions

How often each total comes up when a bag is rolled many times. The table has an entry for every total in the
range of the bag and for every other total that came up, in ascending order.
-/

set_option autoImplicit false

namespace DiceNotation

/-- Totals with how often they came up. -/
abbrev Counts := List (Int × Int)

/-- Totals with their share of all rolls in percent. -/
abbrev Percentages := List (Int × Binary64)

namespace Distribution

/-! ## Counting -/

/-- Every total in the range of a bag, at zero. -/
def seeded (bag : Bag) : Std.TreeMap Int Int :=
  bag.range.toList.foldl (fun table total => table.insert total 0) {}

/-- One more roll with this total. -/
def counted (table : Std.TreeMap Int Int) (total : Int) : Std.TreeMap Int Int :=
  table.insert total (table.getD total 0 + 1)

/-- The table of a bag that was not rolled. -/
def unrolled (bag : Bag) : Counts :=
  (seeded bag).toList

variable {State : Type}

/-- The remark on a distribution that stops before its last roll. -/
def cancelledRemark (done : Nat) (rolls : Int) : Phrase :=
  [.say "Distribution cancelled after ", .number done, .say " of ", .number rolls, .say " rolls."]

/-- Rolls so many times more and counts the totals. Before each roll a distribution that may be cancelled is
looked at: it goes on so many times more, and then it stops. -/
def countRolls (generator : Generator State) (bag : Bag) (rolls limit : Int) :
    (left done : Nat) → (cancelAfter : Option Nat) → (table : Std.TreeMap Int Int) →
      Play State (Std.TreeMap Int Int)
  | 0, _, _, table => return table
  | left + 1, done, cancelAfter, table =>
      if cancelAfter = some 0 then do
        Play.note .info .sampling (cancelledRemark done rolls)
        return table
      else do
        let total ← rollTotal generator bag limit
        countRolls generator bag rolls limit left (done + 1) (cancelAfter.map Nat.pred) (counted table total)

/-- Rolls a bag and counts its totals. A cancelled distribution stops after so many rolls, if it has not
ended before, and remarks on it. -/
def sample (generator : Generator State) (bag : Bag) (rolls limit : Int)
    (cancelAfter : Option Nat) : Play State Counts := do
  let table ← countRolls generator bag rolls limit rolls.toNat 0 cancelAfter (seeded bag)
  return table.toList

/-! ## Measures -/

/-- The mean of the totals, zero when there were no rolls. -/
def mean (counts : Counts) : Except Failure Binary64 :=
  let rolls := totalOf (counts.map (·.2))
  if rolls = 0 then .ok Binary64.zeroValue
  else
    let sum := totalOf (counts.map fun (total, count) => total * count)
    match Binary64.ofQuotient? sum rolls with
    | some mean => .ok mean
    | none => .error .quotientTooLarge

/-- The share of a count in percent: the nearest quotient, times a hundred, rounded again. -/
def percentage (rolls count : Int) : Except Failure Binary64 :=
  match Binary64.ofQuotient? count rolls with
  | some quotient => .ok (quotient.scale 100)
  | none => .error .quotientTooLarge

/-- The shares of all counts, zero when there were no rolls. -/
def percentages (counts : Counts) (rolls : Int) : Except Failure Percentages :=
  if rolls ≤ 0 then .ok (counts.map fun (total, _) => (total, Binary64.zeroValue))
  else counts.mapM fun (total, count) => do
    let share ← percentage rolls count
    return (total, share)

/-! ## Histograms -/

/-- How often a total comes up, as a count or as a share. -/
inductive Frequency where
  | count (count : Int)
  | share (share : Binary64)
  deriving DecidableEq, Repr

def Frequency.value : Frequency → Except Failure Binary64
  | count number =>
      match Binary64.ofInt? number with
      | some value => .ok value
      | none => .error .numberTooLarge
  | share value => .ok value

/-- The totals with their frequencies as numbers, and how many there are. -/
def histogram (table : List (Int × Frequency)) :
    Except Failure (List (Int × Binary64) × Nat) := do
  let pairs ← table.mapM fun (total, frequency) => do
    let value ← frequency.value
    return (total, value)
  return (pairs, pairs.length)

end Distribution
end DiceNotation
