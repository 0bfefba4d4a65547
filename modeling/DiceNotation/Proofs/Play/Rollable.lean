import DiceNotation.Proofs.Die.Calls
import DiceNotation.Proofs.Play.Safety

/-!
# Groups that can be rolled

A group can be rolled whatever its generator answers when even the fewest rolls it may make have all the positions
that it keeps, and when the remark on a stopped chain can be made. For a group that was built by calls both are
questions about the numbers in the calls.
-/

set_option autoImplicit false

namespace DiceNotation

variable {limit : Int}

/-! ## The lowest rolls -/

/-- Answers every request with the lower bound. -/
def Generator.lowest : Generator Unit where
  draw _ low _ := (.ok low, ())

theorem Generator.fair_lowest : lowest.Fair :=
  fun _ low _ ordered => ⟨low, (), rfl, Int.le_refl _, ordered⟩

theorem Generator.eq_of_answers_lowest {low high : Int} {values : List Int} {state last : Unit}
    (answers : lowest.Answers low high state values last) : ∀ value ∈ values, value = low := by
  induction answers with
  | nil => simp
  | cons answer _ ih =>
      cases answer
      exact List.forall_mem_cons.mpr ⟨rfl, ih⟩

/-! ## The fewest rolls -/

variable {size : Int} {extra : Nat} {rolls : List Int}

theorem Chain.length_of_highest (chain : Chain size extra rolls) (highest : ∀ roll ∈ rolls, roll = size) :
    rolls.length = extra + 1 := by
  induction chain with
  | stops lower => exact absurd (highest _ List.mem_cons_self) lower
  | capped => rfl
  | goes _ ih => exact congrArg (· + 1) (ih (List.forall_mem_cons.mp highest).2)

theorem Chain.length_of_lower (chain : Chain size extra rolls) (lower : ∀ roll ∈ rolls, roll ≠ size) :
    rolls.length = 1 := by
  cases chain with
  | stops _ => rfl
  | capped => exact absurd rfl (lower _ List.mem_cons_self)
  | goes _ => exact absurd rfl (lower _ List.mem_cons_self)

namespace Die

variable {die : Die}

/-- The fewest rolls that the dice of a group may make. A die with one side always shows its highest face. -/
def fewest (die : Die) (limit : Int) : Nat :=
  if die.explosive = true ∧ die.size = 1 then die.count * (limit.toNat + 1) else die.count

theorem count_le_fewest (die : Die) (limit : Int) : die.count ≤ die.fewest limit := by
  unfold fewest
  split
  · exact Nat.le_mul_of_pos_right _ (Nat.succ_pos _)
  · exact Nat.le_refl _

private theorem length_flatten_of_equal {chains : List (List Int)} {length : Nat}
    (equal : ∀ chain ∈ chains, chain.length = length) :
    chains.flatten.length = chains.length * length := by
  rw [List.length_flatten, List.eq_replicate_of_mem (List.forall_mem_map.mpr equal),
    List.sum_replicate_nat, List.length_map]

theorem Rolls.length_of_lowest (raw : die.Rolls limit rolls) (lowest : ∀ roll ∈ rolls, roll = 1) :
    rolls.length = die.fewest limit := by
  unfold fewest
  cases raw with
  | plain plain same => rw [if_neg (by simp [plain]), same]
  | @exploding chains explosive same chained =>
      have faces : ∀ chain ∈ chains, ∀ roll ∈ chain, roll = 1 := fun chain member roll rolled =>
        lowest roll (List.mem_flatten_of_mem member rolled)
      by_cases single : die.size = 1
      · rw [if_pos ⟨explosive, single⟩, ← same]
        refine length_flatten_of_equal fun chain member => ?_
        refine (chained chain member).length_of_highest fun roll rolled => ?_
        rw [faces chain member roll rolled, single]
      · rw [if_neg (fun both => single both.2), ← same, ← Nat.mul_one chains.length]
        refine length_flatten_of_equal fun chain member => ?_
        refine (chained chain member).length_of_lower fun roll rolled => ?_
        rw [faces chain member roll rolled]
        exact Ne.symm single

theorem Rolls.fewest_le (raw : die.Rolls limit rolls)
    (faces : ∀ roll ∈ rolls, 1 ≤ roll ∧ roll ≤ die.size) : die.fewest limit ≤ rolls.length := by
  by_cases single : die.size = 1
  · refine Nat.le_of_eq (raw.length_of_lowest fun roll rolled => ?_).symm
    have inside := faces roll rolled
    omega
  · rw [fewest, if_neg (fun both => single both.2)]
    exact raw.length.1

/-! ## What a group keeps -/

/-- Even the fewest rolls have every position that the group keeps, and a group that rolls each die once drops no
negative number of them. -/
structure KeepsWithin (die : Die) (limit : Int) : Prop where
  positions : ∀ positions, die.drop = .keeping positions → ∀ position ∈ positions,
    -(die.fewest limit : Int) ≤ position ∧ position < die.fewest limit
  sides : die.explosive = false → ∀ number, die.drop = .lowest number ∨ die.drop = .highest number → 0 ≤ number

theorem keepsWithin_of_within (within : die.drop.Within die.count) (limit : Int) : die.KeepsWithin limit where
  positions positions shape position member := by
    rw [shape] at within
    have inside := within position member
    have enough := die.count_le_fewest limit
    omega
  sides _ number shape := by
    rcases shape with shape | shape <;>
      · rw [shape] at within
        exact within

/-- One value for each die leaves as many as the group says exactly when no negative number of them is dropped. -/
theorem length_eq_keptCount_iff {values survivors : List Int} (same : values.length = die.count)
    (kept : keepRolls values die = .ok survivors) :
    (survivors.length : Int) = die.keptCount ↔
      ∀ number, die.drop = .lowest number ∨ die.drop = .highest number → 0 ≤ number := by
  unfold keepRolls at kept
  rw [keptCount]
  cases shape : die.drop with
  | none =>
      simp only [shape, Except.ok.injEq] at kept
      simp [Drop.kept, ← kept, same]
  | lowest number =>
      simp only [shape, Except.ok.injEq] at kept
      rw [← kept, List.length_take, (descending_perm values).length_eq]
      simp only [Drop.kept, Drop.lowest.injEq, reduceCtorEq, or_false, forall_eq']
      omega
  | highest number =>
      simp only [shape, Except.ok.injEq] at kept
      rw [← kept, List.length_take, (ascending_perm values).length_eq]
      simp only [Drop.kept, Drop.highest.injEq, reduceCtorEq, false_or, forall_eq']
      omega
  | keeping positions =>
      simp only [shape, mapM_eq_ok_iff] at kept
      simp [Drop.kept, kept.length_eq]

theorem Yields.length_eq_keptCount_iff {drawn survivors : List Int} (yields : die.Yields limit drawn survivors)
    (plain : die.explosive = false) :
    (survivors.length : Int) = die.keptCount ↔
      ∀ number, die.drop = .lowest number ∨ die.drop = .highest number → 0 ≤ number := by
  cases yields with
  | @rolled rolls fresh passed _ raw rerolls kept =>
      refine Die.length_eq_keptCount_iff ?_ kept
      rw [rerolls.length_clampAll, raw.length_of_plain plain]

/-! ## Rolling -/

/-- Whatever a generator answers within the faces of the die, rolling the group gives values, and as many of them
as the group says if it rolls each die once. Only remarks of the threshold and above are kept. -/
def Rollable (die : Die) (limit : Int) (threshold : Level) : Prop :=
  ∀ (State : Type) (generator : Generator State), generator.FairBetween 1 die.size →
    ∀ desk : Desk State, desk.journal.threshold = threshold →
      ∃ survivors finish, (rollGroup generator die limit).on desk = (.ok survivors, finish) ∧
        (die.explosive = false → (survivors.length : Int) = die.keptCount)

theorem Rollable.remarks {threshold : Level} (rollable : die.Rollable limit threshold) (positive : 1 ≤ die.size) :
    die.Remarks limit { threshold } := by
  obtain ⟨survivors, finish, rolled, _⟩ := rollable Unit .highest (Generator.fair_highest.between positive)
    { source := (), journal := { threshold } } rfl
  exact remarks_of_rollGroup_highest rolled

theorem Rollable.keepsWithin {threshold : Level} (rollable : die.Rollable limit threshold)
    (positive : 1 ≤ die.size) : die.KeepsWithin limit := by
  obtain ⟨survivors, finish, rolled, exact⟩ := rollable Unit .lowest (Generator.fair_lowest.between positive)
    { source := (), journal := { threshold } } rfl
  obtain ⟨drawn, yields, drew⟩ := yields_of_rollGroup rolled
  -- The lowest answers stop every chain that can stop, so this is a run with the fewest rolls.
  refine ⟨?_, fun plain => (yields.length_eq_keptCount_iff plain).mp (exact plain)⟩
  cases yields with
  | @rolled rolls fresh passed _ raw rerolls kept =>
      have lowest := fun roll rolled => Generator.eq_of_answers_lowest drew.answers roll
        (List.mem_append_left fresh rolled)
      have inside := exists_keepRolls_iff.mp ⟨survivors, kept⟩
      rwa [rerolls.length_clampAll, raw.length_of_lowest lowest] at inside

theorem KeepsWithin.rollable {threshold : Level} (within : die.KeepsWithin limit)
    (remarks : die.Remarks limit { threshold }) : die.Rollable limit threshold := by
  intro State generator fair desk same
  obtain ⟨drawn, survivors, source, yields, answers⟩ :=
    Yields.exists_of_keepRolls fair limit desk.source fun rolls values raw faces length =>
      exists_keepRolls_iff.mpr fun positions shape position member => by
        have inside := within.positions positions shape position member
        have enough := raw.fewest_le faces
        omega
  obtain ⟨finish, rolled, _⟩ := yields.exists_rollGroup answers (remarks.congr same)
  exact ⟨survivors, finish, rolled, fun plain => (yields.length_eq_keptCount_iff plain).mpr (within.sides plain)⟩

/-! ## Groups built by calls -/

/-- A built group can be rolled exactly when the remark on a stopped chain can be made and it keeps no position
beyond its rolls. The latter is so whenever no call asks for a negative number of rolls to go. -/
theorem built_rollable_iff {size : Int} (positive : 1 ≤ size) (count : Nat) (calls : List Call) (limit : Int)
    (threshold : Level) :
    let die := built size count calls
    (die.Rollable limit threshold ↔ die.Remarks limit { threshold } ∧ die.KeepsWithin limit) ∧
      ((∀ call ∈ calls, call.DropsNonneg) → die.KeepsWithin limit) := by
  intro die
  have sides : 1 ≤ die.size := by
    rw [(built_keeps_dice size count calls).1]
    exact positive
  refine ⟨⟨fun rollable => ⟨rollable.remarks sides, rollable.keepsWithin sides⟩, ?_⟩, fun nonneg => ?_⟩
  · intro given
    obtain ⟨remarks, within⟩ := given
    exact within.rollable remarks
  · exact keepsWithin_of_within (built_within nonneg) limit

/-- Four exploding dice without their lowest and their highest roll; dropping five of them was rejected. -/
theorem built_rollable_middle :
    let calls : List Call := [.dropLowest 5, .dropLowest 1, .dropHighest 1, .rerollBelow 3 2, .withMark true]
    built 6 4 calls =
        { size := 6, count := 4, drop := .keeping [1, 2], reroll := .below 2 3, explosive := true } ∧
      (built 6 4 calls).Rollable 100 .warning := by
  intro calls
  have positive : (1 : Int) ≤ 6 := by decide
  obtain ⟨rollable, within⟩ := built_rollable_iff positive 4 calls 100 .warning
  refine ⟨by decide +kernel, rollable.mpr ⟨?_, within ?_⟩⟩
  · intro _ _ _ piece part
    simp only [cappedRemark, List.mem_cons, List.not_mem_nil, or_false] at part
    rcases part with rfl | rfl | rfl | rfl | rfl <;> decide +kernel
  · simp [calls, Call.DropsNonneg]

/-- Negative numbers of rolls to drop are accepted. A group can keep positions that its rolls do not have, and it
can say that it leaves more values than it rolls. -/
theorem built_unrollable_negative_drops :
    let beyond := built 1 1 [.dropEnds (-2) 0]
    let overcounted := built 6 1 [.dropLowest (-1)]
    Generator.highest.Fair ∧ beyond.drop = .keeping [-2, -1, 0] ∧
      ((rollGroup .highest beyond 100).on { source := () }).1 = .error .noSuchPosition ∧
      overcounted.drop = .lowest (-1) ∧ overcounted.keptCount = 2 ∧
      ((rollGroup .highest overcounted 100).on { source := () }).1 = .ok [6] :=
  ⟨Generator.fair_highest, by decide +kernel⟩

end Die
end DiceNotation
