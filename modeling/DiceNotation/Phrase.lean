import DiceNotation.Numeral

/-!
# Phrases

A phrase is a text with numbers in it that have not been written out yet. It can be written when none
of its numbers is too long, so whether a message can be shown is a property of its numbers alone.
-/

set_option autoImplicit false

namespace DiceNotation

/-- A part of a phrase. -/
inductive Piece where
  | word (text : Text)
  | number (value : Int)
  | signed (value : Int)
  deriving DecidableEq, Repr

/-- A text with numbers in it. -/
abbrev Phrase := List Piece

namespace Piece

abbrev say (literal : String) : Piece :=
  .word literal.toList

def fits : Piece → Bool
  | .word _ => true
  | .number value => Numeral.fits value
  | .signed value => Numeral.fits value

def write : Piece → Text
  | .word text => text
  | .number value => Numeral.write value
  | .signed value => Numeral.writeSigned value

end Piece

namespace Phrase

/-- The whole phrase written out, however long its numbers are. -/
def text (phrase : Phrase) : Text :=
  phrase.flatMap Piece.write

/-- The phrase written out, unless one of its numbers is too long. -/
def write? (phrase : Phrase) : Option Text :=
  if phrase.all Piece.fits then some phrase.text else none

/-- Phrases one after the other with a separator between each two. -/
def joined (separator : Phrase) (phrases : List Phrase) : Phrase :=
  (phrases.intersperse separator).flatten

theorem write?_eq_some_iff {phrase : Phrase} {text : Text} :
    phrase.write? = some text ↔ (∀ piece ∈ phrase, piece.fits = true) ∧ phrase.text = text := by
  simp [write?]

theorem text_append (first second : Phrase) :
    Phrase.text (first ++ second) = first.text ++ second.text := by
  simp [text]

end Phrase
end DiceNotation
