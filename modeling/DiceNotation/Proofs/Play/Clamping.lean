import Mathlib
import DiceNotation.Proofs.Play.Drops

/-!
# Clamping before or after a drop

A drop looks at nothing but the order of the values, so it commutes with every change of values that keeps their
order. A clamp keeps it exactly when its bounds are not the wrong way round.
-/

set_option autoImplicit false

namespace DiceNotation

variable {change : Int → Int}

/-! ## Changes that keep the order -/

theorem ascending_map (monotone : Monotone change) (values : List Int) :
    ascending (values.map change) = (ascending values).map change := by
  -- Different values may become equal, so the two orders need not agree on pairs, and the sorted list is compared.
  apply ascending_eq_of_perm
  · exact (ascending_pairwise values).map change fun _ _ before => monotone before
  · exact (ascending_perm values).map change

theorem descending_map (monotone : Monotone change) (values : List Int) :
    descending (values.map change) = (descending values).map change := by
  rw [descending_eq_reverse, ascending_map monotone, ← List.map_reverse, ← descending_eq_reverse]

theorem entryAt_map (change : Int → Int) (entries : Array Int) (position : Int) :
    entryAt (entries.map change) position = change <$> entryAt entries position := by
  have same : entryAt? (entries.map change) position = (entryAt? entries position).map change := by
    simp only [entryAt?, Array.size_map, Array.getElem?_map, apply_ite (Option.map change), Option.map_none]
  rw [entryAt, entryAt, same]
  cases entryAt? entries position <;> rfl

theorem mapM_entryAt_map (change : Int → Int) (entries : Array Int) (positions : List Int) :
    positions.mapM (entryAt (entries.map change)) = List.map change <$> positions.mapM (entryAt entries) := by
  induction positions with
  | nil => rfl
  | cons position positions ih =>
      rw [List.mapM_cons, List.mapM_cons, ih, entryAt_map]
      cases entryAt entries position with
      | error failure => rfl
      | ok value => cases positions.mapM (entryAt entries) <;> rfl

namespace Die

variable {die : Die}

/-- A change that keeps the order of values can be made before a drop or after it. -/
theorem keepRolls_map (monotone : Monotone change) (values : List Int) :
    keepRolls (values.map change) die = List.map change <$> keepRolls values die := by
  unfold keepRolls
  cases die.drop with
  | none => rfl
  | lowest number =>
      dsimp only
      rw [descending_map monotone, List.length_map, ← List.map_take]
      rfl
  | highest number =>
      dsimp only
      rw [ascending_map monotone, List.length_map, ← List.map_take]
      rfl
  | keeping positions =>
      dsimp only
      rw [ascending_map monotone, ← List.map_toArray, mapM_entryAt_map]

end Die

/-! ## Clamps -/

namespace Cutoff

variable {cutoff : Cutoff}

/-- The bounds are not the wrong way round. -/
def Ordered : Cutoff → Prop
  | between least greatest => least ≤ greatest
  | _ => True

theorem Ordered.monotone_clamp (ordered : cutoff.Ordered) : Monotone fun value => cutoff.clamp value := by
  intro lower upper before
  cases cutoff with
  | none => exact before
  | minimum least =>
      simp only [clamp]
      omega
  | maximum greatest =>
      simp only [clamp]
      omega
  | between least greatest =>
      have ordered : least ≤ greatest := ordered
      simp only [clamp]
      split_ifs <;> omega

/-- A clamp with its bounds the wrong way round exchanges two values, and then another one of them is the highest. -/
theorem exists_drop_of_not_ordered (unordered : ¬ cutoff.Ordered) :
    ∃ (die : Die) (values : List Int), die.cutoff = cutoff ∧
      keepRolls (clampAll values die) die ≠ (fun kept => clampAll kept die) <$> keepRolls values die := by
  cases cutoff with
  | none => exact absurd trivial unordered
  | minimum least => exact absurd trivial unordered
  | maximum greatest => exact absurd trivial unordered
  | between least greatest =>
      have reversed : greatest < least := Int.not_le.mp unordered
      have low : (between least greatest).clamp greatest = least := by
        rw [clamp, if_neg (Int.lt_irrefl _), if_pos reversed]
      have high : (between least greatest).clamp (greatest + 1) = greatest := by
        rw [clamp, if_pos (Int.lt_succ _)]
      have before : ascending [least, greatest] = [greatest, least] :=
        ascending_eq_of_perm (List.pairwise_pair.mpr (Int.le_of_lt reversed)) (.swap ..)
      have after : ascending [greatest, greatest + 1] = [greatest, greatest + 1] :=
        ascending_eq_of_perm (List.pairwise_pair.mpr (Int.le_of_lt (Int.lt_succ _))) .rfl
      refine ⟨{ size := 1, drop := .highest 1, cutoff := .between least greatest }, [greatest, greatest + 1], rfl, ?_⟩
      intro same
      simp only [clampAll, List.map_cons, List.map_nil, low, high, keepRolls, before, after] at same
      have kept : (.ok [greatest] : Except Failure (List Int)) = .ok [(between least greatest).clamp greatest] := same
      rw [low] at kept
      cases kept
      exact Int.lt_irrefl _ reversed

/-- Clamping the values before a drop or after it makes no difference: both give the same values in the same order, or
both fail alike. -/
theorem ordered_iff_clamp_commutes_with_drop (cutoff : Cutoff) :
    cutoff.Ordered ↔ ∀ die : Die, die.cutoff = cutoff → ∀ values,
      keepRolls (clampAll values die) die = (fun kept => clampAll kept die) <$> keepRolls values die := by
  constructor
  · rintro ordered die rfl values
    exact die.keepRolls_map ordered.monotone_clamp values
  · intro commutes
    by_contra unordered
    obtain ⟨die, values, same, differs⟩ := exists_drop_of_not_ordered unordered
    exact differs (commutes die same values)

end Cutoff
end DiceNotation
