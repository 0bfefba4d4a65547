import DiceNotation.Text.Basic
import DiceNotation.Text.Class

/-!
# Numerals

Whole numbers in decimal digits. Reading takes the digits of any script, and leading zeros; writing uses
the ASCII digits and no leading zero. Neither handles more than `Numeral.digitLimit` digits.
-/

set_option autoImplicit false

namespace DiceNotation.Numeral

/-- The most digits that a numeral may have. -/
def digitLimit : Nat := 4300

/-- Ten to a power, the worth of a digit with so many digits after it. -/
def powerOfTen (exponent : Nat) : Nat :=
  Nat.pow 10 exponent

/-- The number that a run of digits stands for. -/
def value (digits : Text) : Nat :=
  digits.foldl (fun total digit => 10 * total + (Text.digitValue? digit).getD 0) 0

/-- The number that a run of digits stands for, unless it has too many of them. -/
def read? (digits : Text) : Option Nat :=
  if digits.length ≤ digitLimit then some (value digits) else none

/-- Whether a number has few enough digits to be written. -/
def fits (number : Int) : Bool :=
  number.natAbs < powerOfTen digitLimit

def digits (number : Nat) : Text :=
  Nat.toDigits 10 number

/-- A whole number, with a minus sign when it is negative. -/
def write : Int → Text
  | .ofNat number => digits number
  | .negSucc number => '-' :: digits (number + 1)

def writeSigned : Int → Text
  | .ofNat number => '+' :: digits number
  | .negSucc number => '-' :: digits (number + 1)

theorem read?_eq_none_iff {run : Text} : read? run = none ↔ digitLimit < run.length := by
  simp [read?]

end DiceNotation.Numeral
