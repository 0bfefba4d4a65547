import DiceNotation.Proofs.Play.Rolls
import DiceNotation.Proofs.Play.Survivors

/-!
# Bounds of what draws lead to

How many numbers a group draws, how many values count and between which bounds they lie. A fair generator always
leads somewhere, and draws that all show one face lead to values that are all the same.
-/

set_option autoImplicit false

namespace DiceNotation

variable {State : Type} {generator : Generator State} {size limit : Int}

/-! ## Chains -/

theorem Chain.length {extra : Nat} {rolls : List Int} (chain : Chain size extra rolls) :
    1 ≤ rolls.length ∧ rolls.length ≤ extra + 1 := by
  induction chain with
  | stops _ => simp
  | capped => simp
  | goes _ ih =>
      rw [List.length_cons]
      omega

theorem Chain.exists_of_unfailing (unfailing : generator.Unfailing 1 size) (extra : Nat)
    (state : State) :
    ∃ rolls source, Chain size extra rolls ∧ generator.Answers 1 size state rolls source := by
  induction extra generalizing state with
  | zero =>
      obtain ⟨value, next, answer⟩ := unfailing state
      by_cases highest : value = size
      · subst highest
        exact ⟨[value], next, .capped, .cons answer .nil⟩
      · exact ⟨[value], next, .stops highest, .cons answer .nil⟩
  | succ extra ih =>
      obtain ⟨value, next, answer⟩ := unfailing state
      by_cases highest : value = size
      · subst highest
        obtain ⟨rolls, source, chain, answers⟩ := ih next
        exact ⟨value :: rolls, source, .goes chain, .cons answer answers⟩
      · exact ⟨[value], next, .stops highest, .cons answer .nil⟩

namespace Die

variable {die : Die}

/-! ## Rolls -/

private theorem length_flatten_of_chains {chains : List (List Int)} {extra : Nat}
    (chained : ∀ chain ∈ chains, Chain size extra chain) :
    chains.length ≤ chains.flatten.length ∧ chains.flatten.length ≤ chains.length * (extra + 1) := by
  induction chains with
  | nil => simp
  | cons chain chains ih =>
      obtain ⟨least, most⟩ := (chained chain List.mem_cons_self).length
      have rest := ih fun other member => chained other (List.mem_cons_of_mem _ member)
      rw [List.flatten_cons, List.length_append, List.length_cons, Nat.add_mul, Nat.one_mul]
      omega

theorem Rolls.length {rolls : List Int} (raw : die.Rolls limit rolls) :
    die.count ≤ rolls.length ∧ rolls.length ≤ die.count * (limit.toNat + 1) := by
  cases raw with
  | plain _ same =>
      rw [same]
      exact ⟨Nat.le_refl _, Nat.le_mul_of_pos_right _ (Nat.succ_pos _)⟩
  | exploding _ same chained =>
      rw [← same]
      exact length_flatten_of_chains chained

theorem Rolls.length_of_plain {rolls : List Int} (raw : die.Rolls limit rolls)
    (plain : die.explosive = false) : rolls.length = die.count := by
  cases raw with
  | plain _ same => exact same
  | exploding explosive _ _ =>
      rw [plain] at explosive
      cases explosive

private theorem exists_answers_of_unfailing (unfailing : generator.Unfailing 1 size) (count : Nat)
    (state : State) :
    ∃ rolls source, rolls.length = count ∧ generator.Answers 1 size state rolls source := by
  induction count generalizing state with
  | zero => exact ⟨[], state, rfl, .nil⟩
  | succ count ih =>
      obtain ⟨value, next, answer⟩ := unfailing state
      obtain ⟨rolls, source, same, answers⟩ := ih next
      exact ⟨value :: rolls, source, congrArg (· + 1) same, .cons answer answers⟩

private theorem exists_chains_of_unfailing (unfailing : generator.Unfailing 1 size) (extra count : Nat)
    (state : State) :
    ∃ (chains : List (List Int)) (source : State), chains.length = count ∧
      (∀ chain ∈ chains, Chain size extra chain) ∧
      generator.Answers 1 size state chains.flatten source := by
  induction count generalizing state with
  | zero => exact ⟨[], state, rfl, by simp, .nil⟩
  | succ count ih =>
      obtain ⟨chain, next, chained, first⟩ := Chain.exists_of_unfailing unfailing extra state
      obtain ⟨chains, source, same, others, later⟩ := ih next
      exact ⟨chain :: chains, source, congrArg (· + 1) same, List.forall_mem_cons.mpr ⟨chained, others⟩,
        first.append later⟩

theorem Rolls.exists_of_unfailing (unfailing : generator.Unfailing 1 die.size) (limit : Int)
    (state : State) :
    ∃ rolls source, die.Rolls limit rolls ∧ generator.Answers 1 die.size state rolls source := by
  cases explosive : die.explosive with
  | false =>
      obtain ⟨rolls, source, same, answers⟩ := exists_answers_of_unfailing unfailing die.count state
      exact ⟨rolls, source, .plain explosive same, answers⟩
  | true =>
      obtain ⟨chains, source, same, chained, answers⟩ :=
        exists_chains_of_unfailing unfailing limit.toNat die.count state
      exact ⟨chains.flatten, source, .exploding explosive same chained, answers⟩

/-! ## Rerolls -/

theorem Rerolls.length {values fresh passed : List Int} {left : Nat}
    (rerolls : die.Rerolls values left fresh passed) :
    passed.length = values.length ∧ fresh.length ≤ left := by
  induction rerolls with
  | done => simp
  | spent => simp
  | again _ _ ih =>
      simp only [List.length_cons]
      omega
  | stays _ _ ih =>
      simp only [List.length_cons]
      omega

theorem Rerolls.length_clampAll {values fresh passed : List Int} {left : Nat}
    (rerolls : die.Rerolls values left fresh passed) : (clampAll passed die).length = values.length := by
  rw [clampAll, List.length_map, rerolls.length.1]

theorem Rerolls.mem {values fresh passed : List Int} {left : Nat}
    (rerolls : die.Rerolls values left fresh passed) :
    ∀ value ∈ passed, value ∈ values ++ fresh := by
  induction rerolls with
  | done => simp
  | spent => simp
  | again _ _ ih =>
      intro value member
      rcases List.mem_cons.mp member with rfl | member
      · simp
      · have place := ih value member
        simp only [List.mem_append, List.mem_cons] at place ⊢
        rcases place with old | new
        · exact .inl (.inr old)
        · exact .inr (.inr new)
  | stays _ _ ih =>
      intro value member
      rcases List.mem_cons.mp member with rfl | member
      · exact List.mem_cons_self
      · exact List.mem_cons_of_mem _ (ih value member)

theorem Rerolls.exists_of_unfailing (unfailing : generator.Unfailing 1 die.size) (values : List Int)
    (left : Nat) (state : State) :
    ∃ fresh passed source, die.Rerolls values left fresh passed ∧
      generator.Answers 1 die.size state fresh source := by
  induction values generalizing left state with
  | nil => exact ⟨[], [], state, .done, .nil⟩
  | cons value values ih =>
      cases left with
      | zero => exact ⟨[], value :: values, state, .spent, .nil⟩
      | succ left =>
          cases qualifies : die.reroll.qualifies value with
          | true =>
              obtain ⟨new, next, answer⟩ := unfailing state
              obtain ⟨fresh, passed, source, rerolls, answers⟩ := ih left next
              exact ⟨new :: fresh, new :: passed, source, .again qualifies rerolls,
                .cons answer answers⟩
          | false =>
              obtain ⟨fresh, passed, source, rerolls, answers⟩ := ih (left + 1) state
              exact ⟨fresh, value :: passed, source, .stays qualifies rerolls, answers⟩

/-- A pass over equal values that draws the same value again changes none of them. -/
theorem Rerolls.exists_replicate (die : Die) (face : Int) (count left : Nat) :
    ∃ number, die.Rerolls (List.replicate count face) left (List.replicate number face)
      (List.replicate count face) := by
  induction count generalizing left with
  | zero => exact ⟨0, .done⟩
  | succ count ih =>
      cases left with
      | zero => exact ⟨0, .spent⟩
      | succ left =>
          cases qualifies : die.reroll.qualifies face with
          | true =>
              obtain ⟨number, rerolls⟩ := ih left
              exact ⟨number + 1, .again qualifies rerolls⟩
          | false =>
              obtain ⟨number, rerolls⟩ := ih (left + 1)
              exact ⟨number, .stays qualifies rerolls⟩

/-! ## Survivors -/

namespace Yields

variable {drawn survivors : List Int}

theorem length_drawn (yields : die.Yields limit drawn survivors) :
    die.count ≤ drawn.length ∧
      drawn.length ≤ die.count * (limit.toNat + 1) + die.reroll.count.toNat := by
  cases yields with
  | rolled raw rerolls _ =>
      obtain ⟨least, most⟩ := raw.length
      obtain ⟨_, few⟩ := rerolls.length
      rw [List.length_append]
      omega

theorem inside (yields : die.Yields limit drawn survivors) (fits : die.cutoff.Fits die.size)
    (faces : ∀ value ∈ drawn, 1 ≤ value ∧ value ≤ die.size) :
    ∀ value ∈ survivors,
      (die.cutoff.bounds die.size).1 ≤ value ∧ value ≤ (die.cutoff.bounds die.size).2 := by
  cases yields with
  | rolled _ rerolls kept =>
      intro value member
      obtain ⟨roll, passed, rfl⟩ := List.mem_map.mp (mem_of_keepRolls kept value member)
      obtain ⟨atLeast, atMost⟩ := faces roll (rerolls.mem roll passed)
      exact Cutoff.clamp_mem_bounds fits atLeast atMost

theorem length_survivors (yields : die.Yields limit drawn survivors)
    (fits : die.drop.Fits die.count) :
    die.keptCount ≤ survivors.length ∧
      (die.explosive = false → (survivors.length : Int) = die.keptCount) := by
  cases yields with
  | @rolled rolls fresh passed _ raw rerolls kept =>
      have same := rerolls.length_clampAll
      obtain ⟨least, most⟩ := length_of_keepRolls fits (by rw [same]; exact raw.length.1) kept
      refine ⟨least, fun plain => ?_⟩
      have exact := raw.length_of_plain plain
      omega

/-- Each die of the group adds at most one value for each extra roll that it may make. -/
theorem length_survivors_le (yields : die.Yields limit drawn survivors) (fits : die.drop.Fits die.count) :
    (survivors.length : Int) ≤ die.keptCount + die.count * max limit 0 := by
  cases yields with
  | @rolled rolls fresh passed _ raw rerolls kept =>
      have same := rerolls.length_clampAll
      obtain ⟨enough, few⟩ := raw.length
      have stay := (length_of_keepRolls fits (by rw [same]; exact enough) kept).2
      have bound : (limit.toNat : Int) = max limit 0 := Int.toNat_eq_max ..
      have few : (rolls.length : Int) ≤ die.count * (limit.toNat + 1) := by exact_mod_cast few
      rw [bound, Int.mul_add, Int.mul_one] at few
      omega

/-- A fair generator leads somewhere when the drop can be made of every list as long as the rolls. -/
theorem exists_of_keepRolls (fair : generator.FairBetween 1 die.size) (limit : Int) (state : State)
    (keeps : ∀ rolls values, die.Rolls limit rolls → (∀ roll ∈ rolls, 1 ≤ roll ∧ roll ≤ die.size) →
      values.length = rolls.length → ∃ survivors, keepRolls values die = .ok survivors) :
    ∃ drawn survivors source, die.Yields limit drawn survivors ∧
      generator.Answers 1 die.size state drawn source := by
  obtain ⟨rolls, next, raw, first⟩ := Rolls.exists_of_unfailing fair.unfailing limit state
  obtain ⟨fresh, passed, source, rerolls, second⟩ :=
    Rerolls.exists_of_unfailing fair.unfailing rolls die.reroll.count.toNat next
  obtain ⟨survivors, kept⟩ := keeps rolls (clampAll passed die) raw (first.inside fair)
    rerolls.length_clampAll
  exact ⟨rolls ++ fresh, survivors, source, .rolled raw rerolls kept, first.append second⟩

theorem exists_of_fair (formed : die.WellFormed) (fair : generator.FairBetween 1 die.size)
    (limit : Int) (state : State) :
    ∃ drawn survivors source, die.Yields limit drawn survivors ∧
      generator.Answers 1 die.size state drawn source :=
  exists_of_keepRolls fair limit state fun _ _ raw _ same =>
    exists_keepRolls formed.drop (by rw [same]; exact raw.length.1)

/-- When every draw shows the same face, every value that counts is that face after the clamp. -/
theorem exists_replicate (formed : die.WellFormed) (plain : die.explosive = false) (limit face : Int) :
    ∃ number, die.Yields limit (List.replicate number face)
      (List.replicate die.keptCount.toNat (die.cutoff.clamp face)) := by
  have raw : die.Rolls limit (List.replicate die.count face) := .plain plain List.length_replicate
  obtain ⟨number, rerolls⟩ := Rerolls.exists_replicate die face die.count die.reroll.count.toNat
  have enough : die.count ≤ (clampAll (List.replicate die.count face) die).length :=
    Nat.le_of_eq (by rw [clampAll, List.length_map, List.length_replicate])
  obtain ⟨survivors, kept⟩ := exists_keepRolls formed.drop enough
  have yields : die.Yields limit (List.replicate die.count face ++ List.replicate number face) survivors :=
    .rolled raw rerolls kept
  -- Which values stay does not matter: there are as many as the group keeps, and all are equal.
  have same : survivors = List.replicate die.keptCount.toNat (die.cutoff.clamp face) := by
    refine List.eq_replicate_iff.mpr ⟨?_, ?_⟩
    · have exact := (yields.length_survivors formed.drop).2 plain
      omega
    · intro value member
      obtain ⟨roll, passed, rfl⟩ := List.mem_map.mp (mem_of_keepRolls kept value member)
      rw [List.eq_of_mem_replicate passed]
  rw [List.replicate_append_replicate, same] at yields
  exact ⟨_, yields⟩

end Yields
end Die
end DiceNotation
