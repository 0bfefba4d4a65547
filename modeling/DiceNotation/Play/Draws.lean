/-!
# The draws that were made

A record of the bounds of every draw. Equal draws in a row are kept as one run, so a long record stays short.
-/

set_option autoImplicit false

namespace DiceNotation

/-- Equal draws in a row. -/
structure DrawRun where
  low : Int
  high : Int
  times : Nat
  deriving DecidableEq, Repr

/-- The draws so far, the last run first. -/
structure Draws where
  reversed : List DrawRun := []
  deriving DecidableEq, Repr

namespace Draws

def add (draws : Draws) (low high : Int) : Draws :=
  match draws.reversed with
  | [] => ⟨[⟨low, high, 1⟩]⟩
  | last :: earlier =>
      if last.low = low ∧ last.high = high then ⟨⟨low, high, last.times + 1⟩ :: earlier⟩
      else ⟨⟨low, high, 1⟩ :: last :: earlier⟩

def runs (draws : Draws) : List DrawRun :=
  draws.reversed.reverse

/-- The bounds of each draw in order. -/
def toList (draws : Draws) : List (Int × Int) :=
  draws.runs.flatMap fun run => List.replicate run.times (run.low, run.high)

theorem toList_add (draws : Draws) (low high : Int) :
    (draws.add low high).toList = draws.toList ++ [(low, high)] := by
  cases draws with
  | mk reversed =>
      cases reversed with
      | nil => simp [add, toList, runs]
      | cons last earlier =>
          by_cases same : last.low = low ∧ last.high = high
          · obtain ⟨rfl, rfl⟩ := same
            simp [add, toList, runs, List.replicate_succ']
          · simp [add, toList, runs, same]

end Draws
end DiceNotation
