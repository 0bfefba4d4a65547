import DiceNotation.Notation.Token

/-!
# The grammar of expressions

What a text without blanks and capitals has to look like to be an expression, and which tokens it then stands
for. An expression is a group, or an expression with a sign and a group after it; a group is a numeral, or dice
with a size, modifiers and a mark.
-/

set_option autoImplicit false

namespace DiceNotation.Grammar

/-- A run of ASCII digits that is not too long. -/
structure IsNumeral (text : Text) : Prop where
  nonempty : text ≠ []
  digits : ∀ char ∈ text, '0' ≤ char ∧ char ≤ '9'
  short : text.length ≤ Numeral.digitLimit

/-- The modifiers that a text writes, each a code and a numeral. -/
inductive WritesModifiers : Text → List Modifier → Prop where
  | nil : WritesModifiers [] []
  | cons {kind : ModifierKind} {numeral rest : Text} {modifiers : List Modifier} :
      IsNumeral numeral → WritesModifiers rest modifiers →
      WritesModifiers (kind.code ++ numeral ++ rest)
        (⟨kind, Numeral.value numeral⟩ :: modifiers)

/-- The number of dice that a text writes; no text stands for one die. -/
inductive WritesCount : Text → Nat → Prop where
  | one : WritesCount [] 1
  | numeral {numeral : Text} : IsNumeral numeral → WritesCount numeral (Numeral.value numeral)

/-- The mark of exploding dice, or its absence. -/
inductive WritesMark : Text → Bool → Prop where
  | absent : WritesMark [] false
  | present : WritesMark ['!'] true

/-- What a group says. -/
inductive WritesGroup : Text → TokenBody → Prop where
  | bonus {numeral : Text} : IsNumeral numeral → WritesGroup numeral (.bonus (Numeral.value numeral))
  | dice {countText sizeText modifierText markText : Text} {count : Nat} {explosive : Bool}
      {modifiers : List Modifier} :
      WritesCount countText count → IsNumeral sizeText → 1 ≤ Numeral.value sizeText →
      WritesModifiers modifierText modifiers → WritesMark markText explosive →
      WritesGroup (countText ++ ['d'] ++ sizeText ++ modifierText ++ markText)
        (.dice count (Numeral.value sizeText) explosive modifiers)

/-- The tokens of the rest of an expression, each after its sign. -/
inductive WritesLater : Text → List Token → Prop where
  | nil : WritesLater [] []
  | cons {sign : Sign} {text rest : Text} {body : TokenBody} {tokens : List Token} :
      WritesGroup text body → WritesLater rest tokens →
      WritesLater (sign.symbol :: (text ++ rest)) (⟨sign, text, body⟩ :: tokens)

/-- The tokens of an expression; the first group is added and has no sign. -/
inductive Writes : Text → List Token → Prop where
  | groups {text rest : Text} {body : TokenBody} {tokens : List Token} :
      WritesGroup text body → WritesLater rest tokens →
      Writes (text ++ rest) (⟨.plus, text, body⟩ :: tokens)

end DiceNotation.Grammar
