import DiceNotation.Die.Checked
import DiceNotation.Notation.Modifier

/-!
# Modifying a group

The modifiers of a group are gone through once for each family of clauses. Each scan remembers what it
has seen, so that a second modifier of the same role is rejected, and the clause is added at its end.
-/

set_option autoImplicit false

namespace DiceNotation.Die

/-! ## Drops -/

/-- How many rolls the modifiers seen so far drop on each side. -/
structure DropScan where
  lowest : Option Int := none
  highest : Option Int := none
  deriving DecidableEq, Repr

/-- Keeping some rolls drops the others; at least one die has to go and one has to stay. -/
def droppedByKeeping (die : Die) (kept : Int) : Except Failure Int :=
  if (die.count : Int) ≤ kept then reject (.excessiveDrop kept die.count)
  else do
    checkDrop (die.count - kept) die.count
    return die.count - kept

/-- So many rolls go. -/
def droppedByNumber (die : Die) (number : Int) : Except Failure Int := do
  checkDrop number die.count
  return number

def DropScan.setLowest (scan : DropScan) (dropped : Except Failure Int) :
    Except Failure DropScan :=
  match scan.lowest with
  | some _ => reject (.duplicateDrop (Text.of "dl/kh"))
  | none => do
      let number ← dropped
      return { scan with lowest := some number }

def DropScan.setHighest (scan : DropScan) (dropped : Except Failure Int) :
    Except Failure DropScan :=
  match scan.highest with
  | some _ => reject (.duplicateDrop (Text.of "dh/kl"))
  | none => do
      let number ← dropped
      return { scan with highest := some number }

/-- Takes one modifier into account. -/
def DropScan.add (die : Die) (scan : DropScan) (modifier : Modifier) :
    Except Failure DropScan :=
  match modifier.kind with
  | .dropLowest => scan.setLowest (die.droppedByNumber modifier.value)
  | .keepHighest => scan.setLowest (die.droppedByKeeping modifier.value)
  | .dropHighest => scan.setHighest (die.droppedByNumber modifier.value)
  | .keepLowest => scan.setHighest (die.droppedByKeeping modifier.value)
  | _ => .ok scan

def addDrop (die : Die) (modifiers : List Modifier) : Except Failure Die := do
  let scan ← modifiers.foldlM (DropScan.add die) {}
  match scan.lowest, scan.highest with
  | some lowest, some highest => die.dropEnds lowest highest
  | some lowest, none => die.dropLowest lowest
  | none, some highest => die.dropHighest highest
  | none, none => return die

/-! ## Rerolls -/

/-- When a die is rolled again. -/
inductive RerollCondition where
  | above (threshold : Int)
  | below (threshold : Int)
  deriving DecidableEq, Repr

/-- What the modifiers seen so far say about rolling again. -/
structure RerollScan where
  count : Option Int := none
  condition : Option RerollCondition := none
  deriving DecidableEq, Repr

def RerollScan.setCondition (scan : RerollScan) (check : Except Failure Unit)
    (condition : RerollCondition) : Except Failure RerollScan :=
  match scan.condition with
  | some _ => reject (.duplicateReroll (Text.of "condition"))
  | none => do
      check
      return { scan with condition := some condition }

def RerollScan.add (die : Die) (scan : RerollScan) (modifier : Modifier) :
    Except Failure RerollScan :=
  match modifier.kind with
  | .rerollCount =>
      match scan.count with
      | some _ => reject (.duplicateReroll (Text.of "count"))
      | none => do
          checkRerollCount modifier.value die.count
          return { scan with count := some modifier.value }
  | .rerollAbove =>
      scan.setCondition (checkRerollAbove modifier.value die.size) (.above modifier.value)
  | .rerollBelow =>
      scan.setCondition (checkRerollBelow modifier.value die.size) (.below modifier.value)
  | _ => .ok scan

/-- The group with the reroll that its modifiers ask for; a count and a condition come together. -/
def addReroll (die : Die) (modifiers : List Modifier) : Except Failure Die := do
  let scan ← modifiers.foldlM (RerollScan.add die) {}
  match scan.count, scan.condition with
  | some count, some (.above threshold) => die.rerollAbove threshold count
  | some count, some (.below threshold) => die.rerollBelow threshold count
  | none, none => return die
  | _, _ => reject .incompleteReroll

/-! ## Cutoffs -/

/-- The bounds that the modifiers seen so far set. -/
structure CutoffScan where
  minimum : Option Int := none
  maximum : Option Int := none
  deriving DecidableEq, Repr

def CutoffScan.add (die : Die) (scan : CutoffScan) (modifier : Modifier) :
    Except Failure CutoffScan :=
  match modifier.kind with
  | .cutoffMaximum =>
      match scan.maximum with
      | some _ => reject (.duplicateCutoff (Text.of "maximum"))
      | none => do
          checkMaximum modifier.value die.size
          return { scan with maximum := some modifier.value }
  | .cutoffMinimum =>
      match scan.minimum with
      | some _ => reject (.duplicateCutoff (Text.of "minimum"))
      | none => do
          checkMinimum modifier.value die.size
          return { scan with minimum := some modifier.value }
  | _ => .ok scan

/-- The group with the cutoff that its modifiers ask for. -/
def addCutoff (die : Die) (modifiers : List Modifier) : Except Failure Die := do
  let scan ← modifiers.foldlM (CutoffScan.add die) {}
  match scan.minimum, scan.maximum with
  | some minimum, some maximum => die.clampBetween minimum maximum
  | some minimum, none => die.raiseTo minimum
  | none, some maximum => die.lowerTo maximum
  | none, none => return die

/-- The group with everything that its modifiers ask for. -/
def addClauses (die : Die) (modifiers : List Modifier) : Except Failure Die := do
  let dropped ← die.addDrop modifiers
  let rerolled ← dropped.addReroll modifiers
  rerolled.addCutoff modifiers

end DiceNotation.Die
