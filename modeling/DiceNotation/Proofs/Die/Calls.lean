import DiceNotation.Proofs.Bag.Reading

/-!
# Groups that are built call by call

A group is built by calls on a plain one, and a call that is rejected leaves the group as it was. The calls only
touch clauses, the sign and the mark, and as long as the numbers of rolls to drop are not negative, what is kept
lies within the dice of the group. Calls without negative numbers build well-formed groups, as reading does.
-/

set_option autoImplicit false

namespace DiceNotation

/-- A drop that takes nothing below the lowest or above the highest of `count` rolls. -/
def Drop.Within (count : Nat) : Drop → Prop
  | .none => True
  | .lowest number => 0 ≤ number
  | .highest number => 0 ≤ number
  | .keeping positions => ∀ position ∈ positions, 0 ≤ position ∧ position < count

namespace Die

/-- A call in building a group. -/
inductive Call where
  | dropLowest (number : Int)
  | dropHighest (number : Int)
  | dropEnds (lowest highest : Int)
  | rerollAbove (threshold count : Int)
  | rerollBelow (threshold count : Int)
  | raiseTo (minimum : Int)
  | lowerTo (maximum : Int)
  | clampBetween (minimum maximum : Int)
  | withSign (sign : Sign)
  | withMark (explosive : Bool)
  deriving DecidableEq, Repr

namespace Call

def run (call : Call) (die : Die) : Except Failure Die :=
  match call with
  | dropLowest number => die.dropLowest number
  | dropHighest number => die.dropHighest number
  | dropEnds lowest highest => die.dropEnds lowest highest
  | rerollAbove threshold count => die.rerollAbove threshold count
  | rerollBelow threshold count => die.rerollBelow threshold count
  | raiseTo minimum => die.raiseTo minimum
  | lowerTo maximum => die.lowerTo maximum
  | clampBetween minimum maximum => die.clampBetween minimum maximum
  | withSign sign => .ok { die with sign }
  | withMark explosive => .ok { die with explosive }

/-- The call asks for no negative number of rolls to go. Its other numbers may be negative. -/
def DropsNonneg : Call → Prop
  | dropLowest number => 0 ≤ number
  | dropHighest number => 0 ≤ number
  | dropEnds lowest highest => 0 ≤ lowest ∧ 0 ≤ highest
  | _ => True

end Call

/-- The group after a call, or the same group when the call is rejected. -/
def after (die : Die) (call : Call) : Die :=
  match call.run die with
  | .ok made => made
  | .error _ => die

def built (size : Int) (count : Nat) (calls : List Call) : Die :=
  calls.foldl after (plain size count)

variable {die made : Die}

/-! ## One call -/

/-- What an accepted call does not change, and what it keeps up. -/
structure Call.Keeps (call : Call) (die made : Die) : Prop where
  size : made.size = die.size
  count : made.count = die.count
  within : call.DropsNonneg → die.drop.Within die.count → made.drop.Within made.count

private theorem within_of_keepMiddle {lowest highest : Int} (kept : die.keepMiddle lowest highest = .ok made) :
    made.size = die.size ∧ made.count = die.count ∧
      (0 ≤ lowest → 0 ≤ highest → made.drop.Within made.count) := by
  obtain ⟨_, _, rfl⟩ := keepMiddle_eq_ok_iff.mp kept
  refine ⟨rfl, rfl, fun lowestNonneg highestNonneg position member => ?_⟩
  have inside := mem_positionsFrom.mp member
  simp only
  omega

theorem Call.keeps_of_run {call : Call} (ran : call.run die = .ok made) : call.Keeps die made := by
  cases call with
  | dropLowest number =>
      obtain ⟨_, ⟨_, rfl⟩ | ⟨highest, current, kept⟩⟩ := dropLowest_eq_ok_iff.mp ran
      · exact ⟨rfl, rfl, fun nonneg _ => nonneg⟩
      · obtain ⟨size, count, inside⟩ := within_of_keepMiddle kept
        refine ⟨size, count, fun nonneg within => inside nonneg ?_⟩
        rwa [current] at within
  | dropHighest number =>
      obtain ⟨_, ⟨_, rfl⟩ | ⟨lowest, current, kept⟩⟩ := dropHighest_eq_ok_iff.mp ran
      · exact ⟨rfl, rfl, fun nonneg _ => nonneg⟩
      · obtain ⟨size, count, inside⟩ := within_of_keepMiddle kept
        refine ⟨size, count, fun nonneg within => inside ?_ nonneg⟩
        rwa [current] at within
  | dropEnds lowest highest =>
      obtain ⟨size, count, inside⟩ := within_of_keepMiddle (dropEnds_eq_ok_iff.mp ran).2
      exact ⟨size, count, fun nonneg _ => inside nonneg.1 nonneg.2⟩
  | rerollAbove threshold count =>
      obtain ⟨_, _, rfl⟩ := rerollAbove_eq_ok_iff.mp ran
      exact ⟨rfl, rfl, fun _ within => within⟩
  | rerollBelow threshold count =>
      obtain ⟨_, _, rfl⟩ := rerollBelow_eq_ok_iff.mp ran
      exact ⟨rfl, rfl, fun _ within => within⟩
  | raiseTo minimum =>
      obtain ⟨_, rfl⟩ := raiseTo_eq_ok_iff.mp ran
      exact ⟨rfl, rfl, fun _ within => within⟩
  | lowerTo maximum =>
      obtain ⟨_, rfl⟩ := lowerTo_eq_ok_iff.mp ran
      exact ⟨rfl, rfl, fun _ within => within⟩
  | clampBetween minimum maximum =>
      obtain ⟨_, _, _, rfl⟩ := clampBetween_eq_ok_iff.mp ran
      exact ⟨rfl, rfl, fun _ within => within⟩
  | withSign sign =>
      cases ran
      exact ⟨rfl, rfl, fun _ within => within⟩
  | withMark explosive =>
      cases ran
      exact ⟨rfl, rfl, fun _ within => within⟩

/-! ## All calls -/

/-- A property that every accepted call keeps holds of the built group. -/
theorem built_preserves {size : Int} {count : Nat} {calls : List Call} (Holds : Die → Prop)
    (start : Holds (plain size count))
    (keeps : ∀ before call made, call ∈ calls → Holds before → call.run before = .ok made → Holds made) :
    Holds (built size count calls) := by
  unfold built
  generalize plain size count = die at start
  induction calls generalizing die with
  | nil => exact start
  | cons call calls ih =>
      refine ih (fun before other made member => keeps before other made (List.mem_cons_of_mem _ member))
        (die.after call) ?_
      unfold after
      cases ran : call.run die with
      | ok made => exact keeps die call made List.mem_cons_self start ran
      | error _ => exact start

theorem built_keeps_dice (size : Int) (count : Nat) (calls : List Call) :
    (built size count calls).size = size ∧ (built size count calls).count = count := by
  refine built_preserves (fun die => die.size = size ∧ die.count = count) ⟨rfl, rfl⟩ ?_
  intro before call made _ held ran
  have keeps := Call.keeps_of_run ran
  exact ⟨keeps.size.trans held.1, keeps.count.trans held.2⟩

theorem built_within {size : Int} {count : Nat} {calls : List Call}
    (nonneg : ∀ call ∈ calls, call.DropsNonneg) :
    (built size count calls).drop.Within (built size count calls).count :=
  built_preserves (fun die => die.drop.Within die.count) trivial
    fun _ call _ member within ran => (Call.keeps_of_run ran).within (nonneg call member) within

/-! ## Well-formed groups -/

/-- No number in the call is negative. -/
def Call.Nonneg : Call → Prop
  | dropLowest number => 0 ≤ number
  | dropHighest number => 0 ≤ number
  | dropEnds lowest highest => 0 ≤ lowest ∧ 0 ≤ highest
  | rerollAbove threshold count => 0 ≤ threshold ∧ 0 ≤ count
  | rerollBelow threshold count => 0 ≤ threshold ∧ 0 ≤ count
  | raiseTo minimum => 0 ≤ minimum
  | lowerTo maximum => 0 ≤ maximum
  | clampBetween minimum maximum => 0 ≤ minimum ∧ 0 ≤ maximum
  | withSign _ => True
  | withMark _ => True

theorem WellFormed.run {call : Call} (formed : die.WellFormed) (nonneg : call.Nonneg)
    (ran : call.run die = .ok made) : made.WellFormed := by
  cases call with
  | dropLowest number => exact formed.dropLowest nonneg ran
  | dropHighest number => exact formed.dropHighest nonneg ran
  | dropEnds lowest highest =>
      obtain ⟨lowestNonneg, highestNonneg⟩ := nonneg
      exact formed.dropEnds lowestNonneg highestNonneg ran
  | rerollAbove threshold count =>
      obtain ⟨_, countNonneg⟩ := nonneg
      exact formed.rerollAbove countNonneg ran
  | rerollBelow threshold count =>
      obtain ⟨_, countNonneg⟩ := nonneg
      exact formed.rerollBelow countNonneg ran
  | raiseTo minimum => exact formed.raiseTo ran
  | lowerTo maximum => exact formed.lowerTo ran
  | clampBetween minimum maximum => exact formed.clampBetween ran
  | withSign sign =>
      cases ran
      exact ⟨formed.size, formed.drop, formed.reroll, formed.cutoff⟩
  | withMark explosive =>
      cases ran
      exact ⟨formed.size, formed.drop, formed.reroll, formed.cutoff⟩

theorem wellFormed_built {size : Int} {count : Nat} {calls : List Call} (positive : 1 ≤ size)
    (nonneg : ∀ call ∈ calls, call.Nonneg) : (built size count calls).WellFormed :=
  built_preserves WellFormed (wellFormed_plain positive count .plus false)
    fun _ call _ member formed ran => formed.run (nonneg call member) ran

/-- Every bag that is read is well formed, and so is every group that is built by calls without negative numbers,
whether the calls are accepted or rejected. -/
theorem wellFormed_of_read_or_built :
    (∀ text bag, Bag.ofText text = .ok bag → bag.WellFormed) ∧
      ∀ (size : Int) (count : Nat) (calls : List Call), 1 ≤ size → (∀ call ∈ calls, call.Nonneg) →
        (built size count calls).WellFormed ∧ (built size count calls).size = size ∧
          (built size count calls).count = count := by
  refine ⟨fun text bag read => Bag.wellFormed_of_ofText read, ?_⟩
  intro size count calls positive nonneg
  exact ⟨wellFormed_built positive nonneg, built_keeps_dice size count calls⟩

/-- Four dice without their highest and their lowest roll less a bonus, read and built. Dropping four of the dice
and rerolling five were rejected. -/
theorem wellFormed_of_read_or_built_middle :
    let die : Die := { size := 6, count := 4, drop := .keeping [1, 2], cutoff := .between 2 5 }
    let bag : Bag := { groups := [.dice die, .bonus { value := 2, sign := .minus }] }
    let calls : List Call := [.dropLowest 4, .dropHighest 1, .rerollAbove 3 5, .dropLowest 1, .clampBetween 2 5]
    Bag.ofText (Text.of "4d6dh1mn2dl1mx5-2") = .ok bag ∧ bag.WellFormed ∧
      built 6 4 calls = die ∧ die.WellFormed := by
  intro die bag calls
  have read : Bag.ofText (Text.of "4d6dh1mn2dl1mx5-2") = .ok bag := by decide +kernel
  have made : built 6 4 calls = die := by decide +kernel
  obtain ⟨formedBag, formedDie⟩ := wellFormed_of_read_or_built
  obtain ⟨formed, _⟩ := formedDie 6 4 calls (by decide) (by simp [calls, Call.Nonneg])
  rw [made] at formed
  exact ⟨read, formedBag _ bag read, made, formed⟩

end Die
end DiceNotation
