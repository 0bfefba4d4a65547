import DiceNotation.Bag.Basic
import DiceNotation.Die.Modified
import DiceNotation.Notation.Token

/-!
# The expression of a bag

Reading takes the whole expression apart before it builds any group. Writing gives an expression that reads back as
the same bag whenever the bag has the shape of one that was read. A bag of another shape, such as one that keeps
positions with gaps, is written by the first and the last position it keeps.
-/

set_option autoImplicit false

namespace DiceNotation

/-! ## Reading -/

def Group.ofToken (token : Token) : Except Failure Group :=
  match token.body with
  | .bonus value => .ok (.bonus { value, sign := token.sign })
  | .dice count size explosive modifiers => do
      let plain : Die := { size, count, sign := token.sign, explosive }
      let die ← plain.addClauses modifiers
      return .dice die

/-- The bag that an expression stands for. -/
def Bag.ofText (text : Text) : Except Failure Bag := do
  let tokens ← Token.listOfText text
  let groups ← tokens.mapM Group.ofToken
  return { groups }

/-! ## Writing -/

def Modifier.phrase (modifier : Modifier) : Phrase :=
  [.word modifier.kind.code, .number modifier.value]

/-- The modifiers that write a drop of `count` dice. A drop on both sides is written with both of its
halves, also when one of them is zero. -/
def Drop.modifiers (count : Int) : Drop → List Modifier
  | .none => []
  | .lowest number => [⟨.dropLowest, number⟩]
  | .highest number => [⟨.dropHighest, number⟩]
  | .keeping [] => []
  | .keeping (first :: rest) =>
      [⟨.dropLowest, first⟩, ⟨.dropHighest, count - (first :: rest).getLast (by simp) - 1⟩]

def Reroll.modifiers : Reroll → List Modifier
  | .never _ => []
  | .above count threshold => [⟨.rerollCount, count⟩, ⟨.rerollAbove, threshold⟩]
  | .below count threshold => [⟨.rerollCount, count⟩, ⟨.rerollBelow, threshold⟩]

def Cutoff.modifiers : Cutoff → List Modifier
  | .none => []
  | .minimum least => [⟨.cutoffMinimum, least⟩]
  | .maximum greatest => [⟨.cutoffMaximum, greatest⟩]
  | .between least greatest => [⟨.cutoffMinimum, least⟩, ⟨.cutoffMaximum, greatest⟩]

def Die.modifiers (die : Die) : List Modifier :=
  die.drop.modifiers die.count ++ die.reroll.modifiers ++ die.cutoff.modifiers

/-- A die group as it is written, without its sign. -/
def Die.phrase (die : Die) : Phrase :=
  [.number die.count, .word ['d'], .number die.size] ++ die.modifiers.flatMap Modifier.phrase ++
    if die.explosive then [.word ['!']] else []

def Group.phrase : Group → Phrase
  | .dice die => die.phrase
  | .bonus flat => [.number flat.value]

/-- A group as it is written after another one. -/
def Group.signedPhrase (group : Group) : Phrase :=
  .word [group.sign.symbol] :: group.phrase

/-- A bag as it is written; a plus sign in front of it is left out. -/
def Bag.phrase (bag : Bag) : Phrase :=
  match bag.groups with
  | [] => []
  | first :: later =>
      (if first.sign = .plus then first.phrase else first.signedPhrase) ++
        later.flatMap Group.signedPhrase

/-- The expression for a bag. -/
def Bag.write (bag : Bag) : Except Failure Text :=
  bag.phrase.write

end DiceNotation
