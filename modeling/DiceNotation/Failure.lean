import DiceNotation.Notation.Error

/-!
# Failures

Every way in which an operation of the library can end without a result. Rejected expressions are the
ordinary case; the others come from numbers beyond a limit, from groups that were put together by hand,
from a generator that cannot answer, from a console that refuses what is shown, and from documents that do not
describe a value.
-/

set_option autoImplicit false

namespace DiceNotation

/-- What a part of a document should have been. -/
inductive Expectation where
  | present
  | atLeastZero
  | knownKind
  | someKind
  | knownSign
  | wholeNumber
  | numeral
  | shortNumeral
  | noFraction
  | finite
  | truthValue
  | truthWord
  | ownKind
  | items
  | fields
  | taggedFields
  | document
  deriving DecidableEq, Repr

/-- One step from a document to a part of it. -/
inductive Step where
  | field (name : String)
  | item (index : Nat)
  deriving DecidableEq, Repr

/-- A part of a document that is not what it should be. -/
structure Issue where
  expectation : Expectation
  path : List Step
  deriving DecidableEq, Repr

/-- Why an operation has no result. -/
inductive Failure where
  | rejected (error : NotationError)
  | numeralTooLong (digits : Nat)
  | numberTooLong
  | tooManyPositions
  | noSuchPosition
  | positionTooLarge
  | emptyDraw (low high : Int)
  | noMoreDraws
  | quotientTooLarge
  | numberTooLarge
  | unshowable
  | unknownSign (sign : Text)
  | unknownCode (code : Text)
  | invalid (issues : List Issue)
  deriving DecidableEq, Repr

/-- The most entries that a list may be asked for, which is also the greatest position in one: the greatest
signed number of 64 bits. -/
def positionLimit : Nat := 0x7fffffffffffffff

/-- Whether a number is a signed number of 64 bits. -/
def fitsWord (number : Int) : Bool :=
  -(positionLimit : Int) - 1 ≤ number && number ≤ positionLimit

/-- Rejection for a stated cause. The message is part of it, so a cause whose numbers are too long to be
written is reported as that. -/
def reject {α : Type} (error : NotationError) : Except Failure α :=
  match error.message.write? with
  | some _ => .error (.rejected error)
  | none => .error .numberTooLong

/-- A phrase as a text, or the failure to write it. -/
def Phrase.write (phrase : Phrase) : Except Failure Text :=
  match phrase.write? with
  | some text => .ok text
  | none => .error .numberTooLong

/-- The message about a draw between bounds with no number between them. -/
def Failure.emptyDrawMessage (low high : Int) : Phrase :=
  [.say "empty range ", .number low, .say "..", .number high]

/-- Failure of a draw between bounds with no number between them. The message names both bounds, so bounds too
long to be written are reported as that. -/
def rejectDraw {α : Type} (low high : Int) : Except Failure α :=
  match (Failure.emptyDrawMessage low high).write? with
  | some _ => .error (.emptyDraw low high)
  | none => .error .numberTooLong

/-- The number of a run of digits, or the failure to read it. -/
def Numeral.read (digits : Text) : Except Failure Nat :=
  match Numeral.read? digits with
  | some number => .ok number
  | none => .error (.numeralTooLong digits.length)

theorem reject_ne_ok {α : Type} {error : NotationError} {value : α} :
    reject error ≠ .ok value := by
  unfold reject
  split <;> simp

end DiceNotation
