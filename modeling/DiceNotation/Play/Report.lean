import DiceNotation.Bag.Expression
import DiceNotation.Play.Rolling

/-!
# Reports

The report of a roll says what each die group yielded, what the bonuses add, and the total.
-/

set_option autoImplicit false

namespace DiceNotation

/-- What one die group yielded; the total has the sign of the group. -/
structure DieReport where
  die : Die
  values : List Int := []
  total : Int := 0
  deriving DecidableEq, Repr

def DieReport.ofValues (die : Die) (values : List Int) : DieReport :=
  { die, values, total := die.sign.apply 0 (totalOf values) }

/-- What the bonuses of a bag add. -/
structure BonusReport where
  values : List Int := []
  total : Int := 0
  deriving DecidableEq, Repr

/-- The report of one roll. -/
structure Report where
  dice : List DieReport := []
  bonus : BonusReport := {}
  total : Int := 0
  deriving DecidableEq, Repr

namespace Report

def addDice (report : Report) (own : DieReport) : Report :=
  { report with dice := report.dice ++ [own], total := report.total + own.total }

def addBonus (report : Report) (flat : Bonus) : Report :=
  { report with
    bonus :=
      { values := report.bonus.values ++ [flat.signed], total := report.bonus.total + flat.signed }
    total := report.total + flat.signed }

/-! ## Rolling a bag -/

/-- What one group of a bag contributes to a report. -/
inductive Part where
  | dice (own : DieReport)
  | bonus (flat : Bonus)
  deriving DecidableEq, Repr

namespace Part

def dice? : Part → Option DieReport
  | dice own => some own
  | bonus _ => none

def bonus? : Part → Option Int
  | dice _ => none
  | bonus flat => some flat.signed

/-- What the group adds to the total. -/
def total : Part → Int
  | dice own => own.total
  | bonus flat => flat.signed

end Part

def add (report : Report) : Part → Report
  | .dice own => report.addDice own
  | .bonus flat => report.addBonus flat

/-- The report of the groups of a bag, added one after the other. -/
def ofParts (parts : List Part) : Report :=
  parts.foldl add {}

/-- Adding groups puts each of them at the end of its list, and the sums grow by the sums of what is added. -/
theorem foldl_add (report : Report) (parts : List Part) :
    parts.foldl add report =
      { dice := report.dice ++ parts.filterMap Part.dice?
        bonus :=
          { values := report.bonus.values ++ parts.filterMap Part.bonus?
            total := report.bonus.total + totalOf (parts.filterMap Part.bonus?) }
        total := report.total + totalOf (parts.map Part.total) } := by
  induction parts generalizing report with
  | nil => simp [totalOf]
  | cons part parts ih =>
      rw [List.foldl_cons, ih]
      cases part with
      | dice own =>
          simp [add, addDice, List.filterMap_cons, Part.dice?, Part.bonus?, Part.total, totalOf, Int.add_assoc]
      | bonus flat =>
          simp [add, addBonus, List.filterMap_cons, Part.dice?, Part.bonus?, Part.total, totalOf, Int.add_assoc]

@[simp] theorem dice_ofParts (parts : List Part) : (ofParts parts).dice = parts.filterMap Part.dice? := by
  simp [ofParts, foldl_add]

@[simp] theorem bonus_ofParts (parts : List Part) :
    (ofParts parts).bonus = ⟨parts.filterMap Part.bonus?, totalOf (parts.filterMap Part.bonus?)⟩ := by
  simp [ofParts, foldl_add]

@[simp] theorem total_ofParts (parts : List Part) :
    (ofParts parts).total = totalOf (parts.map Part.total) := by
  simp [ofParts, foldl_add]

def rollPart {State : Type} (generator : Generator State) (limit : Int) : Group → Play State Part
  | .bonus flat => return .bonus flat
  | .dice die => do
      let values ← rollGroup generator die limit
      return .dice (.ofValues die values)

def roll {State : Type} (generator : Generator State) (bag : Bag) (limit : Int) :
    Play State Report := do
  let parts ← bag.groups.mapM (rollPart generator limit)
  return ofParts parts

/-! ## The report in one line -/

/-- What one die group yielded, as it is written in a line. -/
def diePhrase (own : DieReport) : Phrase :=
  (if own.die.sign = .minus then [.say "-"] else []) ++ own.die.phrase ++ [.say " ["] ++
    Phrase.joined [.say ", "] (own.values.map fun value => [.number value]) ++
    [.say "] = ", .number own.total]

/-- The report in one line: the die groups, the bonuses if there are any, and the total. -/
def phrase (report : Report) : Phrase :=
  Phrase.joined [.say "; "]
    (report.dice.map diePhrase ++
      (if report.bonus.values.isEmpty then [] else [[.say "bonus ", .number report.bonus.total]]) ++
      [[.say "total ", .number report.total]])

end Report
end DiceNotation
