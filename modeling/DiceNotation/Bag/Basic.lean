import DiceNotation.Die.Group
import DiceNotation.Failure

/-!
# Bags

A bag is a sequence of groups. Its range is the least and the greatest total that its groups can make when
no die explodes; it is worked out group by group without rolling.
-/

set_option autoImplicit false

namespace DiceNotation

/-- A sequence of groups. -/
structure Bag where
  groups : List Group := []
  deriving DecidableEq, Repr

/-- An interval of totals. -/
structure Span where
  low : Int
  high : Int
  deriving DecidableEq, Repr

namespace Span

/-- What one group yields, without its sign. -/
def ofGroup : Group → Span
  | .bonus flat => ⟨flat.value, flat.value⟩
  | .dice die =>
      let (low, high) := die.cutoff.bounds die.size
      ⟨low * die.keptCount, high * die.keptCount⟩

def ordered (first second : Int) : Span :=
  if second < first then ⟨second, first⟩ else ⟨first, second⟩

/-- The interval of totals after one more group: its sign is applied to the two ends. -/
def add (span : Span) (group : Group) : Span :=
  let own := ofGroup group
  ordered (group.sign.apply span.low own.low) (group.sign.apply span.high own.high)

def ofGroups (groups : List Group) : Span :=
  groups.foldl add ⟨0, 0⟩

/-- The whole numbers of the interval in ascending order. -/
def toList (span : Span) : List Int :=
  (List.range (span.high - span.low + 1).toNat).map fun offset : Nat => span.low + (offset : Int)

/-- The whole numbers of the interval, unless there are too many to list. -/
def list (span : Span) : Except Failure (List Int) :=
  if positionLimit < (span.high - span.low + 1).toNat then .error .tooManyPositions
  else .ok span.toList

theorem ordered_low_le_high (first second : Int) :
    (ordered first second).low ≤ (ordered first second).high := by
  unfold ordered
  split <;> simp only <;> omega

theorem mem_toList {span : Span} {total : Int} :
    total ∈ span.toList ↔ span.low ≤ total ∧ total ≤ span.high := by
  simp only [toList, List.mem_map, List.mem_range]
  constructor
  · rintro ⟨offset, inside, rfl⟩
    omega
  · rintro ⟨atLeast, atMost⟩
    exact ⟨(total - span.low).toNat, by omega, by omega⟩

end Span

/-- The least and the greatest total without explosions. -/
def Bag.range (bag : Bag) : Span :=
  Span.ofGroups bag.groups

end DiceNotation
