import DiceNotation.Phrase

/-!
# What can be wrong with an expression

One constructor for each cause, with the facts that its message names.
-/

set_option autoImplicit false

namespace DiceNotation

/-- Why a text, or a step of building a group, is rejected. -/
inductive NotationError where
  | invalidCharacter (char : Text)
  | emptyGroup (text : Text)
  | notDiceOrBonus (group : Text)
  | misplacedExplosion (group : Text)
  | malformedBase (group : Text)
  | invalidSize (size : Int)
  | modifierWithoutLetter (char : Text)
  | bonusWithModifiers (group : Text)
  | malformedModifiers (modifiers : Text)
  | unknownModifier (code : Text)
  | duplicateDrop (codes : Text)
  | excessiveDrop (dropped count : Int)
  | conflictingDrops
  | incompleteReroll
  | duplicateReroll (part : Text)
  | thresholdOutOfRange (threshold size : Int)
  | excessiveReroll (rerolls count : Int)
  | duplicateCutoff (bound : Text)
  | cutoffOutOfRange (bound : Text) (value size : Int)
  | invertedCutoff (minimum maximum : Int)
  deriving DecidableEq, Repr

namespace NotationError

open Piece

/-- The name under which a cause is reported. -/
def code : NotationError → String
  | invalidCharacter _ => "InvalidCharacter"
  | emptyGroup _ => "EmptyOrMissingGroup"
  | notDiceOrBonus _ => "NotDiceOrBonus"
  | misplacedExplosion _ => "MisplacedExplosiveMarker"
  | malformedBase _ => "MalformedDiceBase"
  | invalidSize _ => "InvalidDieSize"
  | modifierWithoutLetter _ => "ModifierMustStartWithLetter"
  | bonusWithModifiers _ => "BonusCannotHaveModifiers"
  | malformedModifiers _ => "MalformedModifierSequence"
  | unknownModifier _ => "UnknownModifier"
  | duplicateDrop _ => "DuplicateDropClause"
  | excessiveDrop _ _ => "ExcessiveDrop"
  | conflictingDrops => "ImpossibleDropCombination"
  | incompleteReroll => "IncompleteRerollClause"
  | duplicateReroll _ => "DuplicateRerollClause"
  | thresholdOutOfRange _ _ => "ThresholdOutOfRange"
  | excessiveReroll _ _ => "ExcessiveReroll"
  | duplicateCutoff _ => "DuplicateCutoffClause"
  | cutoffOutOfRange _ _ _ => "InvalidCutoffBound"
  | invertedCutoff _ _ => "InvertedCutoffRange"

/-- The message for the person who wrote the expression. -/
def message : NotationError → Phrase
  | invalidCharacter char => [say "Input contained invalid character (", .word char, say ")."]
  | emptyGroup text => [say "Input (", .word text, say ") contains an empty dice group."]
  | notDiceOrBonus group => [say "Dice group (", .word group, say ") is neither dice nor bonus."]
  | misplacedExplosion group =>
      [say "'!' must be the last character of a dice group, not in (", .word group, say ")."]
  | malformedBase group =>
      [say "Dice group (", .word group, say ") must start with 'XdY' or 'dY'."]
  | invalidSize size => [say "A die must have at least one side, not ", .number size, say "."]
  | modifierWithoutLetter char =>
      [say "Modifiers must start with a letter but start with (", .word char, say ")."]
  | bonusWithModifiers group => [say "A bonus must not have modifiers (", .word group, say ")."]
  | malformedModifiers modifiers =>
      [say "Every modifier needs a numeric argument (", .word modifiers, say ")."]
  | unknownModifier code => [say "(", .word code, say ") is not a valid modifier."]
  | duplicateDrop codes => [say "Multiple (", .word codes, say ") clauses found."]
  | excessiveDrop dropped count =>
      [say "Dropping or keeping too many dice (", .number dropped, say " vs ", .number count,
        say ")."]
  | conflictingDrops => [say "Drop clauses cannot be combined."]
  | incompleteReroll =>
      [say "A reroll clause needs both a count (rr) and a condition (ab/be)."]
  | duplicateReroll part => [say "Multiple reroll ", .word part, say "s found."]
  | thresholdOutOfRange threshold size =>
      [say "Reroll threshold ", .number threshold, say " is out of range for a d", .number size,
        say "."]
  | excessiveReroll rerolls count =>
      [say "Re-rolling more dice than you have (", .number rerolls, say " vs ", .number count,
        say ")."]
  | duplicateCutoff bound => [say "Multiple cutoff ", .word bound, say " clauses found."]
  | cutoffOutOfRange bound value size =>
      [say "Cut-off ", .word bound, say " of ", .number value, say " is not possible for a d",
        .number size, say "."]
  | invertedCutoff minimum maximum =>
      [say "Cut-off minimum ", .number minimum, say " is bigger than maximum ", .number maximum,
        say "."]

end NotationError
end DiceNotation
