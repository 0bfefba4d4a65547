import DiceNotation.Notation.Cleaned
import DiceNotation.Notation.Modifier

/-!
# Tokens

A token is one signed piece of an expression, taken apart: a bonus, or a number of dice of one size with
an optional mark for exploding dice and a list of modifiers.
-/

set_option autoImplicit false

namespace DiceNotation

/-- What a piece of an expression says. -/
inductive TokenBody where
  | bonus (value : Nat)
  | dice (count size : Nat) (explosive : Bool) (modifiers : List Modifier)
  deriving DecidableEq, Repr

/-- A signed piece of an expression, taken apart. -/
structure Token where
  sign : Sign
  text : Text
  body : TokenBody
  deriving DecidableEq, Repr

namespace Token

/-- Whether a text has the letter of dice right before a digit. -/
def namesDice : Text → Bool
  | [] => false
  | char :: rest => (char == 'd' && rest.head?.any Text.isDecimal) || namesDice rest

def isNumeral (text : Text) : Bool :=
  !text.isEmpty && text.all Text.isDecimal

/-- Whether a text begins with a number and the code of a modifier. -/
def isModifiedBonus (text : Text) : Bool :=
  (text.head?.any Text.isDecimal) &&
    ModifierKind.all.any fun kind => kind.code.isPrefixOf (text.dropWhile Text.isDecimal)

/-- The beginning of a die group: its count and its size, as they are written, and what follows. -/
def splitBase? (text : Text) : Option (Text × Text × Text) :=
  match text.dropWhile Text.isDecimal with
  | 'd' :: rest =>
      if rest.head?.any Text.isDecimal then
        some (text.takeWhile Text.isDecimal, rest.takeWhile Text.isDecimal,
          rest.dropWhile Text.isDecimal)
      else none
  | _ => none

/-- How many dice a count stands for; no count stands for one die. -/
def countOfText (text : Text) : Except Failure Nat :=
  if text.isEmpty then .ok 1 else Numeral.read text

def diceOfText (text : Text) : Except Failure TokenBody :=
  let explosive := text.getLast? == some '!'
  let body := if explosive then text.dropLast else text
  if body.contains '!' then reject (.misplacedExplosion text)
  else match splitBase? body with
    | none => reject (.malformedBase text)
    | some (countText, sizeText, rest) => do
        let count ← countOfText countText
        let size ← Numeral.read sizeText
        if size < 1 then
          reject (.invalidSize size)
        else do
          let modifiers ← Modifier.listOfText rest
          return .dice count size explosive modifiers

def bodyOfText (text : Text) : Except Failure TokenBody :=
  if isNumeral text then do
    let value ← Numeral.read text
    return .bonus value
  else if namesDice text then diceOfText text
  else if isModifiedBonus text then reject (.bonusWithModifiers text)
  else reject (.notDiceOrBonus text)

def ofPiece (sign : Sign) (text : Text) : Except Failure Token := do
  let body ← bodyOfText text
  return { sign, text, body }

/-- The tokens of an expression. -/
def listOfText (text : Text) : Except Failure (List Token) := do
  let clean := Notation.cleaned text
  Notation.checkCharacters clean
  let pieces ← Notation.signedPieces clean
  pieces.mapM fun (sign, piece) => ofPiece sign piece

end Token
end DiceNotation
