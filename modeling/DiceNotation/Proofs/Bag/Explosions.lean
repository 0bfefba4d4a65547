import DiceNotation.Proofs.Bag.Range
import DiceNotation.Proofs.Play.Reports

/-!
# Explosions and the range

The range of a bag leaves explosions out. Extra rolls take no roll away from the ones that stay, and every value that
counts lies between the bounds of the cutoff, so explosions move a bag from which only bonuses are taken off upwards,
and each extra roll moves it by the upper bound at most.
-/

set_option autoImplicit false

namespace DiceNotation

/-! ## One group -/

namespace Group

variable {group : Group} {limit : Int}

/-- What extra rolls can add to the worth of a group. -/
def surplus (limit : Int) : Group → Int
  | .bonus _ => 0
  | .dice die =>
      if die.explosive then die.count * max limit 0 * (die.cutoff.bounds die.size).2 else 0

/-- A group is worth no less than without explosions, and no more than its extra rolls can add. -/
theorem CanYield.between (formed : group.WellFormed) {worth : Int} (yields : group.CanYield limit worth) :
    (Span.ofGroup group).low ≤ worth ∧ worth ≤ (Span.ofGroup group).high + group.surplus limit := by
  cases yields with
  | bonus => exact ⟨Int.le_refl _, Int.le_of_eq (Int.add_zero _).symm⟩
  | @dice die drawn survivors yields faces =>
      cases explosive : die.explosive with
      | false =>
          obtain ⟨least, most⟩ := (CanYield.dice yields faces).inside formed explosive
          refine ⟨least, ?_⟩
          simp only [surplus, explosive, Bool.false_eq_true, if_false]
          omega
      | true =>
          have own : die.WellFormed := formed
          obtain ⟨least, most⟩ := totalOf_inside (yields.inside own.cutoff faces)
          have lowPositive := own.cutoff.bounds_inside.1
          obtain ⟨atLeast, atMost⟩ := Cutoff.clamp_mem_bounds own.cutoff (Int.le_refl 1) own.size
          have enough := (yields.length_survivors own.drop).1
          have few := yields.length_survivors_le own.drop
          have fewest := Int.mul_le_mul_of_nonneg_left enough (Int.le_trans (by decide) lowPositive)
          have greatest := Int.mul_le_mul_of_nonneg_left few (show 0 ≤ (die.cutoff.bounds die.size).2 by omega)
          rw [Int.mul_add, Int.mul_comm _ (die.count * max limit 0)] at greatest
          simp only [Span.ofGroup, surplus, explosive, if_true]
          omega

end Group

/-! ## All groups of a bag -/

namespace Span

variable {groups : List Group} {limit : Int}

theorem between_foldl_extend (formed : ∀ group ∈ groups, group.WellFormed)
    (additive : ∀ die, .dice die ∈ groups → die.sign = .plus) {span : Span} {total final surplus : Int}
    (reach : CanReach limit total groups final) (inside : span.low ≤ total ∧ total ≤ span.high + surplus) :
    (groups.foldl extend span).low ≤ final ∧
      final ≤ (groups.foldl extend span).high + (surplus + (groups.map (Group.surplus limit)).sum) := by
  induction reach generalizing span surplus with
  | done => simpa using inside
  | @add total worth final group groups yields _ ih =>
      obtain ⟨own, formed⟩ := List.forall_mem_cons.mp formed
      obtain ⟨least, most⟩ := yields.between own
      rw [List.foldl_cons, List.map_cons, List.sum_cons, ← Int.add_assoc surplus]
      refine ih formed (fun die member => additive die (List.mem_cons_of_mem _ member)) ?_
      rw [extend]
      cases sign : group.sign with
      | plus =>
          simp only [Sign.apply]
          omega
      | minus =>
          -- Only a bonus is taken off, so what is taken off is the same at both ends.
          cases group with
          | dice die => simp [Group.sign, additive die List.mem_cons_self] at sign
          | bonus flat =>
              cases yields
              simp only [Sign.apply, ofGroup, Group.surplus]
              omega

end Span

namespace Bag

variable {State : Type} {generator : Generator State} {bag : Bag}

/-- What extra rolls can add to the total of a bag. -/
def surplus (bag : Bag) (limit : Int) : Int :=
  (bag.groups.map (Group.surplus limit)).sum

/-- Only bonuses are taken off. -/
def Additive (bag : Bag) : Prop :=
  ∀ die, .dice die ∈ bag.groups → die.sign = .plus

theorem range_eq_foldl_extend (formed : ∀ group ∈ bag.groups, group.WellFormed) (additive : bag.Additive) :
    bag.range = bag.groups.foldl Span.extend ⟨0, 0⟩ := by
  have start : Span.Beside ⟨0, 0⟩ ⟨0, 0⟩ := ⟨Int.le_refl _, rfl, Int.le_refl _⟩
  refine (start.foldl formed).2.mpr ⟨rfl, fun before group later split minus => .inl ?_⟩
  cases group with
  | bonus flat => rfl
  | dice die =>
      have plus := additive die (by rw [split]; simp)
      simp [Group.sign, plus] at minus

/-- Explosions push the totals of a bag from which only bonuses are taken off upwards, and not further than the extra
rolls can add. Such a bag has a total wherever remarks on stopped chains can be made. -/
theorem total_of_additive {text : Text} (read : ofText text = .ok bag) (additive : bag.Additive)
    (fair : generator.Fair) (limit : Int) (desk : Desk State) :
    (∀ total finish, (rollTotal generator bag limit).on desk = (.ok total, finish) →
        bag.range.low ≤ total ∧ total ≤ bag.range.high + bag.surplus limit) ∧
      ((∀ die, .dice die ∈ bag.groups → die.Remarks limit desk.journal) →
        ∃ total finish, (rollTotal generator bag limit).on desk = (.ok total, finish)) := by
  have formed := (wellFormed_of_ofText read).groups
  refine ⟨fun total finish rolled => ?_, fun remarks => ?_⟩
  · have reach := canReach_of_foldlM fair formed rolled
    let start : Span := ⟨0, 0⟩
    have inside : start.low ≤ 0 ∧ 0 ≤ start.high + 0 := ⟨Int.le_refl _, Int.le_refl _⟩
    have between := Span.between_foldl_extend formed additive reach inside
    rwa [← range_eq_foldl_extend formed additive, Int.zero_add] at between
  · obtain ⟨report, finish, rolled⟩ := exists_roll formed fair remarks
    exact ⟨_, finish, Report.on_rollTotal_eq_ok_iff.mpr ⟨report, rolled, rfl⟩⟩

/-- The middle one of three exploding dice, less a bonus of two. -/
theorem total_of_additive_middle_less_bonus :
    let bag : Bag :=
      { groups := [.dice { size := 6, count := 3, drop := .keeping [1], explosive := true },
          .bonus { value := 2, sign := .minus }] }
    ofText (Text.of "3d6dl1dh1!-2") = .ok bag ∧
      ∃ total finish, (rollTotal .highest bag 100).on { source := () } = (.ok total, finish) ∧
        -1 ≤ total ∧ total ≤ 4 + 1800 := by
  intro bag
  have read : ofText (Text.of "3d6dl1dh1!-2") = .ok bag := by decide +kernel
  have additive : bag.Additive := by
    intro die member
    rcases List.mem_pair.mp member with same | same
    · cases same
      rfl
    · cases same
  have remarks : ∀ die, .dice die ∈ bag.groups → die.Remarks 100 ({} : Journal) := by
    intro die member explosive dice kept piece part
    rcases List.mem_pair.mp member with same | same
    · cases same
      revert piece
      decide +kernel
    · cases same
  obtain ⟨between, comes⟩ := total_of_additive read additive Generator.fair_highest 100 { source := () }
  obtain ⟨total, finish, rolled⟩ := comes remarks
  exact ⟨read, total, finish, rolled, between total finish rolled⟩

end Bag
end DiceNotation
