import DiceNotation.Number.Binary64
import Mathlib.Algebra.Group.Nat.Defs

/-!
# Quotients that are too large

A quotient has a nearest finite number exactly when it is below the middle between the greatest finite number and
the next power of two. The middle itself is rounded up, because the greatest finite number has an odd fraction.
-/

set_option autoImplicit false

namespace DiceNotation.Binary64

variable {numerator denominator : Nat}

/-! ## Powers of two on both sides of a quotient -/

/-- The middle between the greatest finite number and the next power of two. -/
def overflowBound : Nat := (2 ^ 54 - 1) * 2 ^ 970

end DiceNotation.Binary64
