import DiceNotation.Die.Sign
import DiceNotation.Failure
import DiceNotation.Text.Class
import DiceNotation.Text.Lowercase

/-!
# From a text to its signed pieces

Case and blanks mean nothing in an expression, so they go first. What is left is checked for characters
that no expression has and cut at the signs.
-/

set_option autoImplicit false

namespace DiceNotation.Notation

/-- The text in lower case, without blanks and control characters. -/
def cleaned (text : Text) : Text :=
  (Text.lower text).filter fun char => !Text.isIgnored char

def allowedCharacters : Text :=
  Text.of "+-dlkxhrbeam!n0123456789"

/-- Rejects a text for the first character that no expression has. -/
def checkCharacters (text : Text) : Except Failure Unit :=
  match text.find? fun char => !allowedCharacters.contains char with
  | some char => reject (.invalidCharacter [char])
  | none => .ok ()

/-- A text cut at its signs: the piece before the first sign, and each sign with the piece after it. -/
def cutAtSigns (text : Text) : Text × List (Sign × Text) :=
  text.foldr
    (fun char (piece, later) =>
      match Sign.ofChar? char with
      | some sign => ([], (sign, piece) :: later)
      | none => (char :: piece, later))
    ([], [])

/-- The pieces of a text with their signs, the first piece being added. No piece may be empty. -/
def signedPieces (text : Text) : Except Failure (List (Sign × Text)) :=
  let (first, later) := cutAtSigns text
  let pieces := (Sign.plus, first) :: later
  if pieces.any (·.2.isEmpty) then reject (.emptyGroup text) else .ok pieces

end DiceNotation.Notation
