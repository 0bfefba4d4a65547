import DiceNotation.Text.Basic

/-!
# The journal

Remarks on what happens, each with a level. Only remarks at or above a threshold are kept.
-/

set_option autoImplicit false

namespace DiceNotation

/-- How much a remark matters. -/
inductive Level where
  | debug
  | info
  | warning
  | error
  | critical
  deriving DecidableEq, Repr

def Level.rank : Level → Nat
  | debug => 0
  | info => 1
  | warning => 2
  | error => 3
  | critical => 4

/-- Which part of the library makes a remark. -/
inductive Origin where
  | reading
  | rolling
  | sampling
  | session
  deriving DecidableEq, Repr

/-- A remark that was kept. -/
structure Remark where
  level : Level
  origin : Origin
  text : Text
  deriving DecidableEq, Repr

/-- The remarks so far, the last one first, and the level below which remarks are left out. -/
structure Journal where
  threshold : Level := .warning
  reversed : List Remark := []
  deriving DecidableEq, Repr

namespace Journal

def keeps (journal : Journal) (level : Level) : Bool :=
  journal.threshold.rank ≤ level.rank

def add (journal : Journal) (remark : Remark) : Journal :=
  { journal with reversed := remark :: journal.reversed }

def remarks (journal : Journal) : List Remark :=
  journal.reversed.reverse

end Journal
end DiceNotation
