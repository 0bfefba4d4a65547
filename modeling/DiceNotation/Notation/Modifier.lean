import DiceNotation.Failure
import DiceNotation.Text.Letter

/-!
# Modifiers

A modifier is a code of two letters with a number. The modifiers of a group are written one after the
other; their codes and their numbers are collected apart and then paired in order.
-/

set_option autoImplicit false

namespace DiceNotation

/-- What a modifier asks for. -/
inductive ModifierKind where
  | dropLowest
  | keepHighest
  | dropHighest
  | keepLowest
  | rerollCount
  | rerollAbove
  | rerollBelow
  | cutoffMaximum
  | cutoffMinimum
  deriving DecidableEq, Repr

namespace ModifierKind

/-- The kinds in the order in which they are tried. -/
def all : List ModifierKind :=
  [dropLowest, keepHighest, dropHighest, keepLowest, rerollCount, rerollAbove, rerollBelow,
    cutoffMaximum, cutoffMinimum]

def code : ModifierKind → Text
  | dropLowest => ['d', 'l']
  | keepHighest => ['k', 'h']
  | dropHighest => ['d', 'h']
  | keepLowest => ['k', 'l']
  | rerollCount => ['r', 'r']
  | rerollAbove => ['a', 'b']
  | rerollBelow => ['b', 'e']
  | cutoffMaximum => ['m', 'x']
  | cutoffMinimum => ['m', 'n']

def ofCode? (letters : Text) : Option ModifierKind :=
  all.find? fun kind => kind.code == letters

theorem ofCode?_code (kind : ModifierKind) : ofCode? kind.code = some kind := by
  cases kind <;> rfl

theorem code_of_ofCode? {letters : Text} {kind : ModifierKind}
    (found : ofCode? letters = some kind) : kind.code = letters := by
  simpa using List.find?_some found

end ModifierKind

/-- A modifier: what it asks for, and its number. -/
structure Modifier where
  kind : ModifierKind
  value : Int
  deriving DecidableEq, Repr

namespace Modifier

/-- The letters that codes are made of. -/
def isCodeLetter (char : Char) : Bool :=
  'a' ≤ char && char ≤ 'z'

/-- The modifier of one code and one numeral; an unknown code is noticed before a numeral that is too
long. -/
def ofParts (code numeral : Text) : Except Failure Modifier :=
  match ModifierKind.ofCode? code with
  | none => reject (.unknownModifier code)
  | some kind => do
      let value ← Numeral.read numeral
      return { kind, value }

def listOfText (text : Text) : Except Failure (List Modifier) :=
  match text with
  | [] => .ok []
  | char :: _ =>
      if Text.isLetter char then
        let codes := text.runs isCodeLetter
        let numerals := text.runs Text.isDecimal
        if codes.length = numerals.length then
          (codes.zip numerals).mapM fun (code, numeral) => ofParts code numeral
        else
          reject (.malformedModifiers text)
      else
        reject (.modifierWithoutLetter [char])

end Modifier
end DiceNotation
