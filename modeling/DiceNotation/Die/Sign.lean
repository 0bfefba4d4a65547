import DiceNotation.Text.Basic

/-!
# Signs

Each group of a bag is added to the total or subtracted from it.
-/

set_option autoImplicit false

namespace DiceNotation

/-- Whether a group adds to the total or takes away from it. -/
inductive Sign where
  | plus
  | minus
  deriving DecidableEq, Repr

namespace Sign

/-- The total after a group that is worth `value`. -/
def apply : Sign → Int → Int → Int
  | plus, total, value => total + value
  | minus, total, value => total - value

def symbol : Sign → Char
  | plus => '+'
  | minus => '-'

def ofChar? : Char → Option Sign
  | '+' => some plus
  | '-' => some minus
  | _ => none

theorem ofChar?_symbol (sign : Sign) : ofChar? sign.symbol = some sign := by
  cases sign <;> rfl

theorem ofChar?_eq_some_iff {char : Char} {sign : Sign} :
    ofChar? char = some sign ↔ char = sign.symbol := by
  constructor
  · intro found
    unfold ofChar? at found
    split at found <;> cases found <;> rfl
  · rintro rfl
    exact ofChar?_symbol sign

end Sign
end DiceNotation
