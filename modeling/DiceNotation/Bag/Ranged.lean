import DiceNotation.Bag.Document

/-!
# Bags that hold their range

A bag works its range out once, when it is made, and holds it from then on. The range is not written with the bag. A
copy first takes over everything that its original holds, the range as well, and then works its own range out.
-/

set_option autoImplicit false

namespace DiceNotation

/-- A bag and the range that it holds. -/
structure RangedBag where
  bag : Bag
  range : Span := ⟨0, 0⟩
  deriving DecidableEq, Repr

namespace RangedBag

/-- The bag with its range worked out. -/
def ranged (held : RangedBag) : RangedBag :=
  { held with range := held.bag.range }

def ofBag (bag : Bag) : RangedBag :=
  ranged { bag }

def ofGroups (groups : List Group) : RangedBag :=
  ofBag { groups }

/-- A copy of the bag, with other groups if some are given. -/
def copy (held : RangedBag) (update : Option (List Group)) : RangedBag :=
  match update with
  | none => held.ranged
  | some groups => ranged { held with bag := held.bag.withGroups groups }

def toJson (held : RangedBag) : Text :=
  held.bag.toJson

/-- A bag is restored from its groups alone. -/
def ofJson (text : Text) : Except Failure RangedBag := do
  let bag ← Bag.ofJson text
  return ofBag bag

end RangedBag
end DiceNotation
