import DiceNotation.Die.WellFormed
import DiceNotation.Proofs.Outcome

/-!
# Laws of building

What each checked operation accepts, and which group it then gives. Steps with numbers that are not negative lead
from well-formed groups to well-formed groups.
-/

set_option autoImplicit false

namespace DiceNotation

/-! ## Checks -/

variable {count size : Int} {value : Unit}

private theorem accepts_iff {condition : Prop} [Decidable condition] {error : NotationError} :
    (if condition then .ok () else reject error : Except Failure Unit) = .ok value ↔ condition := by
  split
  · next fits => simp only [fits]
  · next fails => simp only [reject_ne_ok, fails]

private theorem acceptsUnless_iff {condition : Prop} [Decidable condition] {error : NotationError} :
    (if condition then reject error else .ok () : Except Failure Unit) = .ok value ↔
      ¬ condition := by
  split
  · next fails => simp only [reject_ne_ok, fails, not_true_eq_false]
  · next fits => simp only [fits, not_false_eq_true]

theorem checkDrop_eq_ok_iff {dropped : Int} :
    checkDrop dropped count = .ok value ↔ dropped < count := by
  rw [checkDrop, acceptsUnless_iff, Int.not_le]

theorem checkRerollAbove_eq_ok_iff {threshold : Int} :
    checkRerollAbove threshold size = .ok value ↔ 1 ≤ threshold ∧ threshold < size :=
  accepts_iff

theorem checkRerollBelow_eq_ok_iff {threshold : Int} :
    checkRerollBelow threshold size = .ok value ↔ 1 < threshold ∧ threshold ≤ size :=
  accepts_iff

theorem checkRerollCount_eq_ok_iff {rerolls : Int} :
    checkRerollCount rerolls count = .ok value ↔ rerolls ≤ count := by
  rw [checkRerollCount, acceptsUnless_iff, Int.not_lt]

theorem checkMaximum_eq_ok_iff {maximum : Int} :
    checkMaximum maximum size = .ok value ↔ 1 ≤ maximum ∧ maximum < size :=
  accepts_iff

theorem checkMinimum_eq_ok_iff {minimum : Int} :
    checkMinimum minimum size = .ok value ↔ 1 < minimum ∧ minimum ≤ size :=
  accepts_iff

/-! ## Positions -/

theorem length_positionsFrom (first bound : Int) :
    (positionsFrom first bound).length = (bound - first).toNat := by
  simp [positionsFrom]

theorem mem_positionsFrom {first bound position : Int} :
    position ∈ positionsFrom first bound ↔ first ≤ position ∧ position < bound := by
  simp only [positionsFrom, List.mem_map, List.mem_range]
  constructor
  · intro given
    obtain ⟨offset, inside, rfl⟩ := given
    omega
  · intro given
    obtain ⟨atLeast, below⟩ := given
    exact ⟨(position - first).toNat, by omega, by omega⟩

namespace Die

variable {die made : Die}

/-! ## Drops -/

theorem keepMiddle_eq_ok_iff {lowest highest : Int} :
    die.keepMiddle lowest highest = .ok made ↔
      lowest + highest < die.count ∧
        ((die.count : Int) - highest - lowest).toNat ≤ positionLimit ∧
        { die with drop := .keeping (positionsFrom lowest (die.count - highest)) } = made := by
  simp only [keepMiddle, bind_eq_ok_iff, pure_eq_ok_iff, checkDrop_eq_ok_iff, keptPositions]
  constructor
  · intro given
    obtain ⟨⟨⟩, below, positions, kept, rfl⟩ := given
    split at kept
    · cases kept
    · next few =>
        cases kept
        exact ⟨below, by omega, rfl⟩
  · intro given
    obtain ⟨below, few, rfl⟩ := given
    exact ⟨(), below, _, if_neg (by omega), rfl⟩

theorem dropEnds_eq_ok_iff {lowest highest : Int} :
    die.dropEnds lowest highest = .ok made ↔
      die.drop = .none ∧ die.keepMiddle lowest highest = .ok made := by
  unfold dropEnds
  cases die.drop <;> simp [reject_ne_ok]

theorem dropLowest_eq_ok_iff {number : Int} :
    die.dropLowest number = .ok made ↔
      number < die.count ∧
        ((die.drop = .none ∧ { die with drop := .lowest number } = made) ∨
          ∃ highest, die.drop = .highest highest ∧ die.keepMiddle number highest = .ok made) := by
  unfold dropLowest
  cases die.drop <;>
    simp only [reject_ne_ok, bind_eq_ok_iff, pure_eq_ok_iff, checkDrop_eq_ok_iff, exists_const,
      reduceCtorEq, false_and, or_false, and_false, true_and, false_or, Drop.highest.injEq,
      exists_eq_left']

theorem dropHighest_eq_ok_iff {number : Int} :
    die.dropHighest number = .ok made ↔
      number < die.count ∧
        ((die.drop = .none ∧ { die with drop := .highest number } = made) ∨
          ∃ lowest, die.drop = .lowest lowest ∧ die.keepMiddle lowest number = .ok made) := by
  unfold dropHighest
  cases die.drop <;>
    simp only [reject_ne_ok, bind_eq_ok_iff, pure_eq_ok_iff, checkDrop_eq_ok_iff, exists_const,
      reduceCtorEq, false_and, or_false, and_false, true_and, false_or, Drop.lowest.injEq,
      exists_eq_left']

/-! ## Rerolls -/

theorem rerollAbove_eq_ok_iff {threshold count : Int} :
    die.rerollAbove threshold count = .ok made ↔
      (1 ≤ threshold ∧ threshold < die.size) ∧ count ≤ die.count ∧
        { die with reroll := .above count threshold } = made := by
  simp only [rerollAbove, bind_eq_ok_iff, pure_eq_ok_iff, checkRerollAbove_eq_ok_iff,
    checkRerollCount_eq_ok_iff, exists_const]

theorem rerollBelow_eq_ok_iff {threshold count : Int} :
    die.rerollBelow threshold count = .ok made ↔
      (1 < threshold ∧ threshold ≤ die.size) ∧ count ≤ die.count ∧
        { die with reroll := .below count threshold } = made := by
  simp only [rerollBelow, bind_eq_ok_iff, pure_eq_ok_iff, checkRerollBelow_eq_ok_iff,
    checkRerollCount_eq_ok_iff, exists_const]

/-! ## Cutoffs -/

theorem raiseTo_eq_ok_iff {minimum : Int} :
    die.raiseTo minimum = .ok made ↔
      (1 < minimum ∧ minimum ≤ die.size) ∧ { die with cutoff := .minimum minimum } = made := by
  simp only [raiseTo, bind_eq_ok_iff, pure_eq_ok_iff, checkMinimum_eq_ok_iff, exists_const]

theorem lowerTo_eq_ok_iff {maximum : Int} :
    die.lowerTo maximum = .ok made ↔
      (1 ≤ maximum ∧ maximum < die.size) ∧ { die with cutoff := .maximum maximum } = made := by
  simp only [lowerTo, bind_eq_ok_iff, pure_eq_ok_iff, checkMaximum_eq_ok_iff, exists_const]

theorem clampBetween_eq_ok_iff {minimum maximum : Int} :
    die.clampBetween minimum maximum = .ok made ↔
      (1 < minimum ∧ minimum ≤ die.size) ∧ (1 ≤ maximum ∧ maximum < die.size) ∧
        minimum ≤ maximum ∧ { die with cutoff := .between minimum maximum } = made := by
  simp only [clampBetween, bind_eq_ok_iff, checkMinimum_eq_ok_iff, checkMaximum_eq_ok_iff,
    exists_const]
  split
  · simp only [reject_ne_ok, and_false, false_iff]
    omega
  · next ordered => simp only [pure_eq_ok_iff, Int.not_lt.mp ordered, true_and]

/-! ## Well-formed groups -/

theorem wellFormed_plain {size : Int} (positive : 1 ≤ size) (count : Nat) (sign : Sign)
    (explosive : Bool) : Die.WellFormed { size, count, sign, explosive } where
  size := positive
  drop := trivial
  reroll := rfl
  cutoff := trivial

namespace WellFormed

theorem keepMiddle {lowest highest : Int} (formed : die.WellFormed) (lowestNonneg : 0 ≤ lowest)
    (highestNonneg : 0 ≤ highest) (built : die.keepMiddle lowest highest = .ok made) :
    made.WellFormed := by
  obtain ⟨below, _, rfl⟩ := keepMiddle_eq_ok_iff.mp built
  refine ⟨formed.size, ?_, formed.reroll, formed.cutoff⟩
  refine ⟨lowest.toNat, highest.toNat, ?_, ?_⟩
  · simp only
    omega
  · simp only [Int.toNat_of_nonneg lowestNonneg, Int.toNat_of_nonneg highestNonneg]

theorem dropEnds {lowest highest : Int} (formed : die.WellFormed) (lowestNonneg : 0 ≤ lowest)
    (highestNonneg : 0 ≤ highest) (built : die.dropEnds lowest highest = .ok made) :
    made.WellFormed := by
  obtain ⟨_, kept⟩ := dropEnds_eq_ok_iff.mp built
  exact formed.keepMiddle lowestNonneg highestNonneg kept

theorem dropLowest {number : Int} (formed : die.WellFormed) (nonneg : 0 ≤ number)
    (built : die.dropLowest number = .ok made) : made.WellFormed := by
  obtain ⟨below, ⟨_, rfl⟩ | ⟨highest, current, kept⟩⟩ := dropLowest_eq_ok_iff.mp built
  · exact ⟨formed.size, ⟨nonneg, below⟩, formed.reroll, formed.cutoff⟩
  · have fits := formed.drop
    rw [current] at fits
    exact formed.keepMiddle nonneg fits.1 kept

theorem dropHighest {number : Int} (formed : die.WellFormed) (nonneg : 0 ≤ number)
    (built : die.dropHighest number = .ok made) : made.WellFormed := by
  obtain ⟨below, ⟨_, rfl⟩ | ⟨lowest, current, kept⟩⟩ := dropHighest_eq_ok_iff.mp built
  · exact ⟨formed.size, ⟨nonneg, below⟩, formed.reroll, formed.cutoff⟩
  · have fits := formed.drop
    rw [current] at fits
    exact formed.keepMiddle fits.1 nonneg kept

theorem rerollAbove {threshold count : Int} (formed : die.WellFormed) (nonneg : 0 ≤ count)
    (built : die.rerollAbove threshold count = .ok made) : made.WellFormed := by
  obtain ⟨⟨atLeast, below⟩, most, rfl⟩ := rerollAbove_eq_ok_iff.mp built
  exact ⟨formed.size, formed.drop, ⟨nonneg, most, atLeast, below⟩, formed.cutoff⟩

theorem rerollBelow {threshold count : Int} (formed : die.WellFormed) (nonneg : 0 ≤ count)
    (built : die.rerollBelow threshold count = .ok made) : made.WellFormed := by
  obtain ⟨⟨above, atMost⟩, most, rfl⟩ := rerollBelow_eq_ok_iff.mp built
  exact ⟨formed.size, formed.drop, ⟨nonneg, most, above, atMost⟩, formed.cutoff⟩

theorem raiseTo {minimum : Int} (formed : die.WellFormed)
    (built : die.raiseTo minimum = .ok made) : made.WellFormed := by
  obtain ⟨fits, rfl⟩ := raiseTo_eq_ok_iff.mp built
  exact ⟨formed.size, formed.drop, formed.reroll, fits⟩

theorem lowerTo {maximum : Int} (formed : die.WellFormed)
    (built : die.lowerTo maximum = .ok made) : made.WellFormed := by
  obtain ⟨fits, rfl⟩ := lowerTo_eq_ok_iff.mp built
  exact ⟨formed.size, formed.drop, formed.reroll, fits⟩

theorem clampBetween {minimum maximum : Int} (formed : die.WellFormed)
    (built : die.clampBetween minimum maximum = .ok made) : made.WellFormed := by
  obtain ⟨⟨above, _⟩, ⟨_, below⟩, ordered, rfl⟩ := clampBetween_eq_ok_iff.mp built
  exact ⟨formed.size, formed.drop, formed.reroll, above, ordered, below⟩

end WellFormed
end Die
end DiceNotation
