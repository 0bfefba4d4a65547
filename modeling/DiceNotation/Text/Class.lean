import DiceNotation.Text.Basic

/-!
# Blanks, control characters and digits

White space of any script and the control characters carry no meaning inside an expression. Every script writes its
ten decimal digits in one block of ten consecutive code points, zero first.
-/

set_option autoImplicit false

namespace DiceNotation.Text

/-! ## Blanks and control characters -/

/-- White space: the separators, and the control characters that break lines or columns. -/
def isBlank (char : Char) : Bool :=
  let code := char.toNat
  (0x09 ≤ code && code ≤ 0x0d) || (0x1c ≤ code && code ≤ 0x20) || code == 0x85 || code == 0xa0 ||
    code == 0x1680 || (0x2000 ≤ code && code ≤ 0x200a) || code == 0x2028 || code == 0x2029 ||
    code == 0x202f || code == 0x205f || code == 0x3000

/-- The control characters, at the beginning of the two halves of the Latin-1 block and its last ASCII one. -/
def isControl (char : Char) : Bool :=
  char.toNat ≤ 0x1f || (0x7f ≤ char.toNat && char.toNat ≤ 0x9f)

/-- What lower-casing and reading an expression leave out. -/
def isIgnored (char : Char) : Bool :=
  isBlank char || isControl char

/-- The blanks that may stand around a number: all but the four separators of the control block. -/
def isPadding (char : Char) : Bool :=
  isBlank char && !(0x1c ≤ char.toNat && char.toNat ≤ 0x1f)

/-- A text without the characters of a class at its two ends. -/
def trimmed (belongs : Char → Bool) (text : Text) : Text :=
  ((text.dropWhile belongs).reverse.dropWhile belongs).reverse

/-! ## Decimal digits -/

/-- The zeros of the scripts with decimal digits, version 14.0 of the standard. -/
def zeroDigits : List Nat := [
    0x30, 0x660, 0x6f0, 0x7c0, 0x966, 0x9e6, 0xa66, 0xae6, 0xb66, 0xbe6,
    0xc66, 0xce6, 0xd66, 0xde6, 0xe50, 0xed0, 0xf20, 0x1040, 0x1090, 0x17e0,
    0x1810, 0x1946, 0x19d0, 0x1a80, 0x1a90, 0x1b50, 0x1bb0, 0x1c40, 0x1c50, 0xa620,
    0xa8d0, 0xa900, 0xa9d0, 0xa9f0, 0xaa50, 0xabf0, 0xff10, 0x104a0, 0x10d30, 0x11066,
    0x110f0, 0x11136, 0x111d0, 0x112f0, 0x11450, 0x114d0, 0x11650, 0x116c0, 0x11730, 0x118e0,
    0x11950, 0x11c50, 0x11d50, 0x11da0, 0x16a60, 0x16ac0, 0x16b50, 0x1d7ce, 0x1d7d8, 0x1d7e2,
    0x1d7ec, 0x1d7f6, 0x1e140, 0x1e2f0, 0x1e950, 0x1fbf0]

/-- The value of a decimal digit of any script. -/
def digitValue? (char : Char) : Option Nat :=
  (zeroDigits.find? fun first => first ≤ char.toNat && char.toNat ≤ first + 9).map (char.toNat - ·)

/-- Whether a character is a decimal digit of any script. -/
def isDecimal (char : Char) : Bool :=
  (digitValue? char).isSome

end DiceNotation.Text
