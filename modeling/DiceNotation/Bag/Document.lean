import DiceNotation.Bag.Basic
import DiceNotation.Document.Checked
import DiceNotation.Document.Reading
import DiceNotation.Document.Basic

/-!
# Bags as documents

Each clause, group and bag has a document that says of which kind it is, and a check that takes documents
back. A document may leave out what has a usual value.
-/

set_option autoImplicit false

namespace DiceNotation

open Document (record number text truth required optional checkWhole checkTagged)

/-! ## Signs -/

def Sign.document (sign : Sign) : Document :=
  text (String.singleton sign.symbol)

def Sign.check (path : List Step) : Document → Checked Sign
  | .text "+" => .ok .plus
  | .text "-" => .ok .minus
  | _ => Checked.issue path .knownSign

/-! ## Clauses -/

def Drop.document : Drop → Document
  | .none => record [("kind", text "none")]
  | .lowest dropped => record [("kind", text "lowest"), ("n", number dropped)]
  | .highest dropped => record [("kind", text "highest"), ("n", number dropped)]
  | .keeping positions =>
      record [("kind", text "custom"), ("keep", Document.ofNumbers positions)]

def Drop.checkKind? :
    String → Option (List Step → List (String × Document) → Checked Drop)
  | "none" => some fun _ _ => .ok .none
  | "lowest" => some fun path fields => (required fields path "n" checkWhole).map .lowest
  | "highest" => some fun path fields => (required fields path "n" checkWhole).map .highest
  | "custom" => some fun path fields =>
      (optional fields path "keep" [] (Document.checkList checkWhole)).map .keeping
  | _ => Option.none

def Drop.check (path : List Step) (document : Document) : Checked Drop :=
  checkTagged path Drop.checkKind? document

def Reroll.document : Reroll → Document
  | .never count => record [("kind", text "never"), ("count", number count)]
  | .above count threshold =>
      record [("kind", text "above"), ("count", number count), ("threshold", number threshold)]
  | .below count threshold =>
      record [("kind", text "below"), ("count", number count), ("threshold", number threshold)]

/-- The count and the threshold of a reroll with a condition. -/
def Reroll.checkCondition (path : List Step) (fields : List (String × Document)) :
    Checked (Int × Int) :=
  (required fields path "count" checkWhole).both (required fields path "threshold" checkWhole)

def Reroll.checkKind? :
    String → Option (List Step → List (String × Document) → Checked Reroll)
  | "never" => some fun path fields => (optional fields path "count" 0 checkWhole).map .never
  | "above" => some fun path fields =>
      (Reroll.checkCondition path fields).map fun (count, threshold) => .above count threshold
  | "below" => some fun path fields =>
      (Reroll.checkCondition path fields).map fun (count, threshold) => .below count threshold
  | _ => Option.none

def Reroll.check (path : List Step) (document : Document) : Checked Reroll :=
  checkTagged path Reroll.checkKind? document

def Cutoff.document : Cutoff → Document
  | .none => record [("kind", text "none")]
  | .minimum least => record [("kind", text "minimum"), ("n", number least)]
  | .maximum greatest => record [("kind", text "maximum"), ("n", number greatest)]
  | .between least greatest =>
      record [("kind", text "both"), ("minimum", number least), ("maximum", number greatest)]

def Cutoff.checkKind? :
    String → Option (List Step → List (String × Document) → Checked Cutoff)
  | "none" => some fun _ _ => .ok .none
  | "minimum" => some fun path fields => (required fields path "n" checkWhole).map .minimum
  | "maximum" => some fun path fields => (required fields path "n" checkWhole).map .maximum
  | "both" => some fun path fields =>
      ((required fields path "minimum" checkWhole).both
        (required fields path "maximum" checkWhole)).map
          fun (least, greatest) => .between least greatest
  | _ => Option.none

def Cutoff.check (path : List Step) (document : Document) : Checked Cutoff :=
  checkTagged path Cutoff.checkKind? document

/-! ## Groups -/

def Die.document (die : Die) : Document :=
  record [("kind", text "dice"), ("size", number die.size), ("count", number die.count),
    ("drop", die.drop.document), ("reroll", die.reroll.document), ("cutoff", die.cutoff.document),
    ("op", die.sign.document), ("explosive", truth die.explosive)]

def Die.checkFields (path : List Step) (fields : List (String × Document)) : Checked Die :=
  let kind := optional fields path "kind" () (Document.checkKind "dice")
  let size := required fields path "size" checkWhole
  let count := optional fields path "count" 1 Document.checkCount
  let drop := optional fields path "drop" Drop.none Drop.check
  let reroll := optional fields path "reroll" (Reroll.never 0) Reroll.check
  let cutoff := optional fields path "cutoff" Cutoff.none Cutoff.check
  let sign := optional fields path "op" Sign.plus Sign.check
  let explosive := optional fields path "explosive" false Document.checkTruth
  (kind.both (size.both (count.both (drop.both (reroll.both (cutoff.both
    (sign.both explosive))))))).map
      fun (_, size, count, drop, reroll, cutoff, sign, explosive) =>
        { size, count, drop, reroll, cutoff, sign, explosive }

def Bonus.document (flat : Bonus) : Document :=
  record [("kind", text "bonus"), ("bonus", number flat.value), ("op", flat.sign.document)]

def Bonus.checkFields (path : List Step) (fields : List (String × Document)) : Checked Bonus :=
  let kind := optional fields path "kind" () (Document.checkKind "bonus")
  let value := required fields path "bonus" checkWhole
  let sign := optional fields path "op" Sign.plus Sign.check
  (kind.both (value.both sign)).map fun (_, value, sign) => { value, sign }

/-- A record with the fields of one kind of group, whether or not it says of which kind it is. -/
def Document.checkPlain {Value : Type} (path : List Step)
    (check : List Step → List (String × Document) → Checked Value) : Document → Checked Value
  | .record fields => check path fields
  | _ => Checked.issue path .fields

def Group.document : Group → Document
  | .dice die => die.document
  | .bonus flat => flat.document

def Group.checkKind? :
    String → Option (List Step → List (String × Document) → Checked Group)
  | "dice" => some fun path fields => (Die.checkFields path fields).map .dice
  | "bonus" => some fun path fields => (Bonus.checkFields path fields).map .bonus
  | _ => Option.none

def Group.check (path : List Step) (document : Document) : Checked Group :=
  checkTagged path Group.checkKind? document

/-! ## Bags -/

def Bag.document (bag : Bag) : Document :=
  record [("dice", .list (bag.groups.map Group.document))]

def Bag.check (document : Document) : Checked Bag :=
  Document.checkPlain [] (fun path fields =>
    (optional fields path "dice" [] (Document.checkList Group.check)).map fun groups => { groups })
    document

def Bag.toJson (bag : Bag) : Text :=
  bag.document.write

def Bag.ofJson (text : Text) : Except Failure Bag :=
  match Document.read? text with
  | some document => (Bag.check document).result
  | none => .error (.invalid [{ expectation := .document, path := [] }])

def Bag.withGroups (_bag : Bag) (groups : List Group) : Bag :=
  { groups }

end DiceNotation
