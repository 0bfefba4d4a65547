import DiceNotation.Document.Basic
import DiceNotation.Failure
import DiceNotation.Number.Loose

/-!
# Checking documents

The parts of a document are checked one by one, and all issues are reported in the order of the parts.
Numbers and truth values may also be written as texts.
-/

set_option autoImplicit false

namespace DiceNotation

/-- A value, or all that is wrong with the document for it. -/
abbrev Checked (Value : Type) := Except (List Issue) Value

namespace Checked

def value {Value : Type} (value : Value) : Checked Value :=
  .ok value

def issue {Value : Type} (path : List Step) (expectation : Expectation) : Checked Value :=
  .error [{ expectation, path }]

/-- Two parts together, with the issues of both. -/
def both {First Second : Type} : Checked First → Checked Second → Checked (First × Second)
  | .ok first, .ok second => .ok (first, second)
  | .ok _, .error issues => .error issues
  | .error issues, .ok _ => .error issues
  | .error earlier, .error later => .error (earlier ++ later)

def all {Value : Type} (parts : List (Checked Value)) : Checked (List Value) :=
  parts.foldr (fun part later => (part.both later).map fun (first, rest) => first :: rest) (.ok [])

def result {Value : Type} : Checked Value → Except Failure Value
  | .ok value => .ok value
  | .error issues => .error (.invalid issues)

end Checked

namespace Document

def truthOfText? (text : String) : Option Bool :=
  let word := text.toLower
  if ["1", "on", "t", "true", "y", "yes"].contains word then some true
  else if ["0", "off", "f", "false", "n", "no"].contains word then some false
  else none

/-! ## Checks of single parts -/

/-- The whole number that a binary64 number is. It has to lie strictly between the ends of the range of 64
bits, since numbers beyond an end are rounded to it. -/
def checkReal (path : List Step) (value : Binary64) : Checked Int :=
  if !value.isFinite then Checked.issue path .finite
  else match value.whole? with
    | none => Checked.issue path .noFraction
    | some whole =>
        if whole.natAbs ≤ positionLimit then .ok whole else Checked.issue path .shortNumeral

def checkWhole (path : List Step) : Document → Checked Int
  | number value => .ok value
  | truth value => .ok (if value then 1 else 0)
  | real value => checkReal path value
  | text value =>
      match LooseNumeral.read value.toList with
      | .ok whole => .ok whole
      | .error .tooLong => Checked.issue path .shortNumeral
      | .error .malformed => Checked.issue path .numeral
  | _ => Checked.issue path .wholeNumber

def checkCount (path : List Step) (document : Document) : Checked Nat :=
  match checkWhole path document with
  | .ok whole => if whole < 0 then Checked.issue path .atLeastZero else .ok whole.toNat
  | .error issues => .error issues

/-- The truth value of a whole number: one or zero. -/
def checkBit (path : List Step) (number : Int) : Checked Bool :=
  if number = 0 then .ok false
  else if number = 1 then .ok true
  else if fitsWord number then Checked.issue path .truthWord
  else Checked.issue path .truthValue

def checkTruth (path : List Step) : Document → Checked Bool
  | truth value => .ok value
  | number value => checkBit path value
  | real value =>
      match checkReal path value with
      | .ok whole => checkBit path whole
      | .error _ => Checked.issue path .truthValue
  | text value =>
      match truthOfText? value with
      | some word => .ok word
      | none => Checked.issue path .truthWord
  | _ => Checked.issue path .truthValue

def checkList {Value : Type} (check : List Step → Document → Checked Value) (path : List Step) :
    Document → Checked (List Value)
  | list items => Checked.all (items.mapIdx fun index item => check (path ++ [.item index]) item)
  | _ => Checked.issue path .items

/-! ## Checks of fields -/

def required {Value : Type} (fields : List (String × Document)) (path : List Step) (name : String)
    (check : List Step → Document → Checked Value) : Checked Value :=
  match field? fields name with
  | some document => check (path ++ [.field name]) document
  | none => Checked.issue (path ++ [.field name]) .present

def optional {Value : Type} (fields : List (String × Document)) (path : List Step) (name : String)
    (default : Value) (check : List Step → Document → Checked Value) : Checked Value :=
  match field? fields name with
  | some document => check (path ++ [.field name]) document
  | none => .ok default

/-- The one value that the field naming the kind may have. -/
def checkKind (kind : String) (path : List Step) : Document → Checked Unit
  | text value => if value = kind then .ok () else Checked.issue path .ownKind
  | _ => Checked.issue path .ownKind

/-- A record that says of which kind it is: what is wrong when it does not, and otherwise the check for
its kind, at the path that ends in the kind. -/
def checkTagged {Value : Type} (path : List Step)
    (check : String → Option (List Step → List (String × Document) → Checked Value)) :
    Document → Checked Value
  | record fields =>
      match field? fields "kind" with
      | none => Checked.issue path .someKind
      | some (text kind) =>
          match check kind with
          | some check => check (path ++ [.field kind]) fields
          | none => Checked.issue path .knownKind
      | some _ => Checked.issue path .knownKind
  | _ => Checked.issue path .taggedFields

end Document
end DiceNotation
