import DiceNotation.Numeral
import DiceNotation.Text.Class

/-!
# Loose numerals

Whole numbers as they come from documents and arguments. Only ASCII digits count. A numeral in plain form is
taken as it stands; any other one is tidied first, and then has to be in plain form.
-/

set_option autoImplicit false

namespace DiceNotation.LooseNumeral

/-- Why a text is not taken as a whole number. -/
inductive Fault where
  | tooLong
  | malformed
  deriving DecidableEq, Repr

/-- A digit that may begin a numeral of more than one digit. -/
def isLeadingDigit (char : Char) : Bool :=
  '1' ≤ char && char ≤ '9'

/-! ## Plain form -/

/-- The number of a run of digits with no zero in front, unless it has too many of them. -/
def magnitude? : Text → Option Nat
  | ['0'] => some 0
  | first :: rest =>
      if isLeadingDigit first && rest.all Char.isDigit then Numeral.read? (first :: rest) else none
  | [] => none

/-- The number of a numeral in plain form: digits, with a minus sign in front if it is negative. -/
def plain? : Text → Option Int
  | '-' :: digits => (magnitude? digits).map fun number : Nat => -(number : Int)
  | digits => (magnitude? digits).map fun number : Nat => (number : Int)

def unsigned : Text → Text
  | '-' :: rest => rest
  | rest => rest

/-- Whether a text begins like a numeral in plain form and goes on with too many digits. -/
def beginsTooLong (text : Text) : Bool :=
  let digits := (unsigned text).takeWhile Char.isDigit
  digits.head?.any isLeadingDigit && Numeral.digitLimit < digits.length

/-! ## Tidying -/

/-- What remains after zeros and underscores, the last of which was `last`: everything from the first other
digit or a minus sign on. A point or the end of the text needs the last one in front of it. -/
def afterZeros? : (last : Char) → Text → Option Text
  | last, [] => some [last]
  | last, char :: rest =>
      if char = '0' ∨ char = '_' then afterZeros? char rest
      else if isLeadingDigit char ∨ char = '-' then some (char :: rest)
      else if char = '.' then some (last :: char :: rest)
      else none

/-- A numeral without needless zeros in front; the text has to begin with a digit. -/
def withoutLeadingZeros? : Text → Option Text
  | [] => none
  | char :: rest =>
      if char = '0' then afterZeros? char rest
      else if isLeadingDigit char then some (char :: rest)
      else none

/-- A numeral without its decimal places, if there are some and all of them are zero. -/
def withoutDecimalZeros (text : Text) : Text :=
  match text.dropWhile (· != '.') with
  | '.' :: places =>
      if !places.isEmpty && places.all (· == '0') then text.takeWhile (· != '.') else text
  | _ => text

def hasDoubleUnderscore : Text → Bool
  | '_' :: '_' :: _ => true
  | _ :: rest => hasDoubleUnderscore rest
  | [] => false

def withoutUnderscores? (text : Text) : Option Text :=
  if text.head? = some '_' ∨ text.getLast? = some '_' ∨ hasDoubleUnderscore text then none
  else some (text.filter (· != '_'))

/-- Whether a text begins with a minus sign, and what follows its sign if it has one. -/
def splitSign : Text → Bool × Text
  | '-' :: rest => (true, rest)
  | '+' :: rest => (false, rest)
  | rest => (false, rest)

/-- A numeral without padding, plus sign, zeros in front, decimal zeros and underscores. A minus sign in front
stays in front. -/
def tidied? (text : Text) : Option Text := do
  let (negative, magnitude) := splitSign (Text.trimmed Text.isPadding text)
  let stripped ← withoutLeadingZeros? magnitude
  let tidy ← withoutUnderscores? (withoutDecimalZeros stripped)
  return if negative then '-' :: tidy else tidy

/-! ## Reading -/

/-- The whole number that a text stands for. -/
def read (text : Text) : Except Fault Int :=
  if beginsTooLong text then .error .tooLong
  else match plain? text with
    | some number => .ok number
    | none =>
        match (tidied? text).bind plain? with
        | some number => .ok number
        | none => .error .malformed

example : (read (Text.of " +0_0007.00 ")).toOption = some 7 := by decide +kernel
example : (read (Text.of "-0_5")).toOption = some (-5) := by decide +kernel
example : (read (Text.of "0-5")).toOption = some (-5) := by decide +kernel
example : (read (Text.of "-_5")).toOption = none := by decide +kernel
example : (read (Text.of "5.")).toOption = none := by decide +kernel

end DiceNotation.LooseNumeral
