/-!
# Texts

A text is handled as the list of its characters, so that reading and writing are recursions on data. A class of
characters is a table of closed ranges of code points, in ascending order.
-/

set_option autoImplicit false

namespace DiceNotation

/-- A text: its characters in order. -/
abbrev Text := List Char

abbrev Text.of (literal : String) : Text :=
  literal.toList

/-- Texts written one after the other with a separator between each two. -/
def Text.joined (separator : Text) (parts : List Text) : Text :=
  (parts.intersperse separator).flatten

/-- The maximal runs of characters of one class, in order of appearance. -/
def Text.runs (belongs : Char → Bool) (text : Text) : List Text :=
  let (current, finished) := text.foldr
    (fun char (current, finished) =>
      if belongs char then (char :: current, finished)
      else if current.isEmpty then ([], finished)
      else ([], current :: finished))
    (([] : Text), ([] : List Text))
  if current.isEmpty then finished else current :: finished

namespace Text

/-- A table of closed ranges, each given by its first and last code point. -/
abbrev CodeRanges := List (Nat × Nat)

def CodeRanges.covers (ranges : CodeRanges) (char : Char) : Bool :=
  ranges.any fun range => range.1 ≤ char.toNat && char.toNat ≤ range.2

end Text
end DiceNotation
