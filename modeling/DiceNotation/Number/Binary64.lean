import DiceNotation.Numeral

/-!
# Binary64 numbers

The double-precision numbers of the binary interchange format, as their sign and the 63 bits below it. The
magnitudes of finite numbers, read as whole numbers, are in the order of the numbers they encode, so rounding
is done on whole numbers.
-/

set_option autoImplicit false

namespace DiceNotation

/-- A binary64 number: its sign, and its exponent and fraction fields as one whole number. -/
structure Binary64 where
  negative : Bool
  magnitude : Nat
  deriving DecidableEq, Repr

namespace Binary64

/-- The quotient rounded to the nearest whole number, halfway cases to the even neighbour. -/
def roundedQuotient (numerator denominator : Nat) : Nat :=
  let quotient := numerator / denominator
  let rest := 2 * (numerator % denominator)
  if rest < denominator then quotient
  else if denominator < rest then quotient + 1
  else quotient + quotient % 2

/-- The exponent of the greatest power of two that is at most the quotient of two positive numbers. -/
def binaryExponent (numerator denominator : Nat) : Int :=
  let guess : Int := (numerator.log2 : Int) - denominator.log2
  if denominator <<< guess.toNat ≤ numerator <<< (-guess).toNat then guess else guess - 1

/-- The first magnitude with an exponent field above zero; the fraction field holds the numbers below. -/
def fractionSize : Nat := 1 <<< 52

/-- The magnitude of infinity, the first one that is not finite. -/
def infiniteMagnitude : Nat := 2047 * fractionSize

/-- The magnitude nearest to a quotient, or nothing when that is infinity. The last place of the fraction
is worth two to the power of `place`, and never less than the least positive number. -/
def nearestMagnitude? (numerator denominator : Nat) : Option Nat :=
  if numerator = 0 then some 0
  else
    let place := max (binaryExponent numerator denominator - 52) (-1074)
    let fraction :=
      roundedQuotient (numerator <<< (-place).toNat) (denominator <<< place.toNat)
    let magnitude := fraction + (place + 1074).toNat * fractionSize
    if magnitude < infiniteMagnitude then some magnitude else none

/-- The number nearest to a quotient. The sign comes from the signs of the operands, also for zero. -/
def ofQuotient? (numerator denominator : Int) : Option Binary64 :=
  (nearestMagnitude? numerator.natAbs denominator.natAbs).map fun magnitude =>
    { negative := (numerator < 0) != (denominator < 0), magnitude }

/-- The number nearest to a whole number. -/
def ofInt? (number : Int) : Option Binary64 :=
  ofQuotient? number 1

/-- The number nearest to a decimal fraction, infinity if that is nearer than any other. -/
def ofDecimal (negative : Bool) (digits places : Nat) : Binary64 :=
  { negative
    magnitude := (nearestMagnitude? digits (Numeral.powerOfTen places)).getD infiniteMagnitude }

def zeroValue : Binary64 :=
  { negative := false, magnitude := 0 }

/-- Whether the number is neither infinite nor undefined. -/
def isFinite (number : Binary64) : Bool :=
  number.magnitude < infiniteMagnitude

/-- The absolute value of a finite number as a quotient. -/
def quotient (number : Binary64) : Nat × Nat :=
  let exponent := number.magnitude / fractionSize
  let fraction := number.magnitude % fractionSize
  if exponent = 0 then (fraction, 1 <<< 1074)
  else ((fractionSize + fraction) <<< (exponent - 1075), 1 <<< (1075 - exponent))

/-- The whole number that a finite number is, if it is one. -/
def whole? (number : Binary64) : Option Int :=
  let (numerator, denominator) := number.quotient
  if numerator % denominator = 0 then
    let magnitude : Int := (numerator / denominator : Nat)
    some (if number.negative then -magnitude else magnitude)
  else none

/-- The product with a natural number, rounded to the nearest number. -/
def scale (number : Binary64) (factor : Nat) : Binary64 :=
  if infiniteMagnitude ≤ number.magnitude then number
  else
    let (numerator, denominator) := number.quotient
    { number with
      magnitude := (nearestMagnitude? (numerator * factor) denominator).getD infiniteMagnitude }

def signBit : Nat := 1 <<< 63

def bits (number : Binary64) : Nat :=
  (if number.negative then signBit else 0) + number.magnitude

/-- A finite number with the given number of decimal places. The exact value is rounded, halfway cases to
the even neighbour, and a negative number keeps its sign when it rounds to zero. -/
def writeFixed (number : Binary64) (places : Nat) : Text :=
  let (numerator, denominator) := number.quotient
  let shifted := roundedQuotient (numerator * Numeral.powerOfTen places) denominator
  let decimals := Numeral.digits (shifted % Numeral.powerOfTen places)
  (if number.negative then ['-'] else []) ++
    Numeral.digits (shifted / Numeral.powerOfTen places) ++ ['.'] ++
    List.replicate (places - decimals.length) '0' ++ decimals

/-- A finite number with all its decimal places, and at least one. -/
def writeExact (number : Binary64) : Text :=
  let (numerator, denominator) := number.quotient
  number.writeFixed (max 1 (denominator / Nat.gcd numerator denominator).log2)

example : (ofQuotient? 1 3).map bits = some 0x3fd5555555555555 := by decide +kernel
example : (ofQuotient? 0 (-5)).map bits = some 0x8000000000000000 := by decide +kernel
example : (ofQuotient? 1 7).map (bits <| scale · 100) = some 0x402c924924924924 := by
  decide +kernel
example : ofInt? (1 <<< 1024 : Nat) = none := by decide +kernel

end Binary64
end DiceNotation
