import DiceNotation.Text.Basic
import DiceNotation.Text.Printable

/-!
# Quoted texts

A text between quotation marks in which every character can be told apart: the mark itself, the
backslash, line ends and unprintable characters are written as escapes.
-/

set_option autoImplicit false

namespace DiceNotation.Text

/-- Double marks only when they save an escape: the text has a single mark and no double one. -/
def quotationMark (text : Text) : Char :=
  if text.contains '\'' && !text.contains '"' then '"' else '\''

/-- The lowest `width` hexadecimal digits of a number, in lower case. -/
def hexDigits : Nat → Nat → Text
  | 0, _ => []
  | width + 1, number => hexDigits width (number / 16) ++ [Nat.digitChar (number % 16)]

/-- An unprintable character by its code point, in two, four or eight digits as it needs. -/
def escapedCode (char : Char) : Text :=
  let code := char.toNat
  if code < 0x100 then ['\\', 'x'] ++ hexDigits 2 code
  else if code < 0x10000 then ['\\', 'u'] ++ hexDigits 4 code
  else ['\\', 'U'] ++ hexDigits 8 code

def escaped (mark char : Char) : Text :=
  if char = mark || char = '\\' then ['\\', char]
  else if char = '\n' then ['\\', 'n']
  else if char = '\r' then ['\\', 'r']
  else if char = '\t' then ['\\', 't']
  else if isPrintable char then [char]
  else escapedCode char

def quoted (text : Text) : Text :=
  let mark := quotationMark text
  mark :: text.flatMap (escaped mark) ++ [mark]

end DiceNotation.Text
