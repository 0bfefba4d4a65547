import Mathlib.Data.List.Basic
import DiceNotation.Proofs.Play.Totals

/-!
# Which dice are rolled again

The reroll clause goes over the values once. The first ones that qualify are replaced, each by the next number that
is drawn, and a replaced value is not looked at again.
-/

set_option autoImplicit false

namespace DiceNotation

namespace Die

variable {die : Die}

/-- The positions of the values that qualify for a reroll, in increasing order. -/
def qualifying (die : Die) (values : List Int) : List Nat :=
  values.findIdxs fun value => die.reroll.qualifies value

theorem qualifying_cons {value : Int} (values : List Int) :
    die.qualifying (value :: values) =
      if die.reroll.qualifies value then 0 :: (die.qualifying values).map (· + 1)
      else (die.qualifying values).map (· + 1) := by
  rw [qualifying, List.findIdxs_cons, List.findIdxs_start]
  rfl

/-- So many values at most are replaced: the first qualifying one by the first fresh number and so on. All others
stay. -/
structure Replaces (die : Die) (most : Int) (values fresh passed : List Int) : Prop where
  length : passed.length = values.length
  number : (fresh.length : Int) = min most (die.qualifying values).length
  replaced : ∀ place position, place < fresh.length → (die.qualifying values)[place]? = some position →
    passed[position]? = fresh[place]?
  kept : ∀ position, position ∉ (die.qualifying values).take fresh.length → passed[position]? = values[position]?

namespace Replaces

variable {value new : Int} {values fresh passed : List Int} {left : Nat}

theorem nothing {most : Int} (empty : min most (die.qualifying values).length = 0) :
    die.Replaces most values [] values :=
  ⟨rfl, empty.symm, fun _ _ inside => absurd inside (Nat.not_lt_zero _), fun _ _ => rfl⟩

theorem again (qualifies : die.reroll.qualifies value = true) (rest : die.Replaces left values fresh passed) :
    die.Replaces (left + 1) (value :: values) (new :: fresh) (new :: passed) := by
  obtain ⟨length, number, replaced, kept⟩ := rest
  have positions : die.qualifying (value :: values) = 0 :: (die.qualifying values).map (· + 1) := by
    rw [qualifying_cons, if_pos qualifies]
  refine ⟨congrArg (· + 1) length, ?_, ?_, ?_⟩
  · rw [positions]
    simp only [List.length_cons, List.length_map]
    omega
  · intro place position inside found
    rw [positions] at found
    cases place with
    | zero =>
        cases found
        rfl
    | succ place =>
        rw [List.getElem?_cons_succ, List.getElem?_map, Option.map_eq_some_iff] at found
        obtain ⟨earlier, found, rfl⟩ := found
        exact replaced place earlier (Nat.lt_of_succ_lt_succ inside) found
  · intro position outside
    rw [positions, List.length_cons, List.take_succ_cons, List.mem_cons, not_or, ← List.map_take] at outside
    obtain ⟨later, outside⟩ := outside
    cases position with
    | zero => exact absurd rfl later
    | succ position => exact kept position fun member => outside (List.mem_map_of_mem member)

theorem stays (fails : die.reroll.qualifies value = false) (rest : die.Replaces (left + 1) values fresh passed) :
    die.Replaces (left + 1) (value :: values) fresh (value :: passed) := by
  obtain ⟨length, number, replaced, kept⟩ := rest
  have positions : die.qualifying (value :: values) = (die.qualifying values).map (· + 1) := by
    rw [qualifying_cons, if_neg (by simp [fails])]
  refine ⟨congrArg (· + 1) length, ?_, ?_, ?_⟩
  · rw [positions, List.length_map]
    exact number
  · intro place position inside found
    rw [positions, List.getElem?_map, Option.map_eq_some_iff] at found
    obtain ⟨earlier, found, rfl⟩ := found
    exact replaced place earlier inside found
  · intro position outside
    rw [positions, ← List.map_take] at outside
    cases position with
    | zero => rfl
    | succ position => exact kept position fun member => outside (List.mem_map_of_mem member)

end Replaces

theorem Rerolls.replaces {values fresh passed : List Int} {left : Nat}
    (rerolls : die.Rerolls values left fresh passed) : die.Replaces left values fresh passed := by
  induction rerolls with
  | done => exact .nothing (Int.min_eq_right (Int.natCast_nonneg _))
  | spent => exact .nothing (Int.min_eq_left (Int.natCast_nonneg _))
  | again qualifies _ rest => exact rest.again qualifies
  | stays fails _ rest => exact rest.stays fails

variable {State : Type} {generator : Generator State}

/-- A generator that does not fail is asked for as many faces as values are replaced, and these are the first ones
that qualify. -/
theorem rollAgain_replaces_first (unfailing : generator.Unfailing 1 die.size) (values : List Int)
    (desk : Desk State) :
    ∃ fresh passed finish, (rollAgain generator values die).on desk = (.ok passed, finish) ∧
      desk.Drew generator 1 die.size fresh finish ∧ die.Replaces (max die.reroll.count 0) values fresh passed := by
  obtain ⟨_, _, _, possible, answers⟩ :=
    Rerolls.exists_of_unfailing unfailing values die.reroll.count.toNat desk.source
  obtain ⟨finish, rolled, _⟩ := possible.exists_rollAgainFrom answers []
  obtain ⟨fresh, passed, rerolls, same, drew⟩ := rerolls_of_rollAgainFrom rolled
  rw [← same] at rolled
  have bound : (die.reroll.count.toNat : Int) = max die.reroll.count 0 := Int.toNat_eq_max ..
  exact ⟨fresh, passed, finish, rolled, drew, bound ▸ rerolls.replaces⟩

/-- The first fresh number qualifies as well and stays; the third value that qualifies is not replaced. -/
theorem rollAgain_replaces_first_two :
    let die : Die := { size := 6, count := 4, reroll := .below 2 4 }
    let desk : Desk (List Int) := { source := [1, 2] }
    ∃ fresh finish, (rollAgain .replay [3, 5, 3, 2] die).on desk = (.ok [1, 5, 2, 2], finish) ∧
      desk.Drew .replay 1 6 fresh finish ∧ die.Replaces 2 [3, 5, 3, 2] fresh [1, 5, 2, 2] := by
  intro die desk
  have unfailing : Generator.replay.Unfailing 1 die.size :=
    (Generator.fair_replay.between (by decide)).unfailing
  obtain ⟨fresh, passed, finish, rolled, drew, replaces⟩ :=
    rollAgain_replaces_first unfailing [3, 5, 3, 2] desk
  have computed : ((rollAgain .replay [3, 5, 3, 2] die).on desk).1 = .ok [1, 5, 2, 2] := by decide
  obtain rfl : passed = [1, 5, 2, 2] := by simpa [rolled] using computed
  exact ⟨fresh, finish, rolled, drew, replaces⟩

end Die
end DiceNotation
