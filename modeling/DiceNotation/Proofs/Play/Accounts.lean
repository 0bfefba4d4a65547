import Mathlib.Algebra.Ring.Int.Defs
import DiceNotation.Play.Report
import DiceNotation.Proofs.Play.Steps

/-!
# Reports and totals agree

A bag is rolled for its report or for its total alone. Both ways roll the same die groups one after the other, so
they leave the same desk and fail alike, and the report accounts for the total group by group.
-/

set_option autoImplicit false

namespace DiceNotation

variable {State : Type} {generator : Generator State} {limit : Int}

/-! ## The parts of a bag -/

namespace Group

def die? : Group → Option Die
  | .dice die => some die
  | .bonus _ => none

def bonus? : Group → Option Bonus
  | .dice _ => none
  | .bonus flat => some flat

end Group

/-- The sum of some values, taken away when the group is subtracted. -/
def Sign.sum : Sign → List Int → Int
  | .plus, values => values.sum
  | .minus, values => -values.sum

theorem Sign.apply_totalOf (sign : Sign) (total : Int) (values : List Int) :
    sign.apply total (totalOf values) = total + sign.sum values := by
  cases sign with
  | plus => rfl
  | minus => exact Int.sub_eq_add_neg

namespace Report

/-- Die groups rolled one after the other, each on the desk that the die groups before it leave. -/
inductive RollsDice (generator : Generator State) (limit : Int) :
    Desk State → List Die → List DieReport → Desk State → Prop where
  | done {desk : Desk State} : RollsDice generator limit desk [] [] desk
  | next {desk middle finish : Desk State} {die : Die} {values : List Int} {dice : List Die}
      {reports : List DieReport} :
      (rollGroup generator die limit).on desk = (.ok values, middle) →
      RollsDice generator limit middle dice reports finish →
      RollsDice generator limit desk (die :: dice) (⟨die, values, die.sign.sum values⟩ :: reports) finish

/-- What a report says about the groups that were rolled for it: each die group by itself, the bonuses in order,
and the sums of both. -/
structure Accounts (report : Report) (generator : Generator State) (limit : Int) (groups : List Group)
    (desk finish : Desk State) : Prop where
  dice : RollsDice generator limit desk (groups.filterMap Group.die?) report.dice finish
  boni : report.bonus.values = (groups.filterMap Group.bonus?).map Bonus.signed
  bonus : report.bonus.total = report.bonus.values.sum
  total : report.total = (report.dice.map DieReport.total).sum + report.bonus.total

/-! ## One step -/

/-- Adding a group to a total is rolling its part and adding what the part is worth. -/
theorem addToTotal_eq_map_rollPart (total : Int) (group : Group) :
    addToTotal generator limit total group =
      (fun part => total + part.total) <$> rollPart generator limit group := by
  cases group with
  | bonus flat => rfl
  | dice die =>
      simp only [addToTotal, rollPart, map_bind, map_pure, Part.total, DieReport.ofValues,
        Sign.apply_totalOf, Int.zero_add]

/-! ## All groups -/

theorem foldlM_addToTotal_eq_map_mapM (groups : List Group) (total : Int) :
    groups.foldlM (addToTotal generator limit) total =
      (fun parts => total + (parts.map Part.total).sum) <$>
        groups.mapM (rollPart generator limit) := by
  induction groups generalizing total with
  | nil => simp
  | cons group groups ih =>
      simp only [List.foldlM_cons, List.mapM_cons, addToTotal_eq_map_rollPart, ih, map_bind,
        bind_map_left, bind_pure_comp, Functor.map_map, List.map_cons, List.sum_cons, Int.add_assoc]

theorem rollTotal_eq_map_roll (bag : Bag) :
    rollTotal generator bag limit = Report.total <$> roll generator bag limit := by
  simp only [rollTotal, roll, foldlM_addToTotal_eq_map_mapM, Int.zero_add, bind_pure_comp, Functor.map_map,
    total_ofParts]
  rfl

theorem sum_totals_eq (parts : List Part) :
    (parts.map Part.total).sum =
      ((parts.filterMap Part.dice?).map DieReport.total).sum + (parts.filterMap Part.bonus?).sum := by
  induction parts with
  | nil => rfl
  | cons part parts ih =>
      cases part with
      | dice own =>
          simp only [List.map_cons, List.sum_cons, List.filterMap_cons, Part.dice?, Part.bonus?,
            Part.total, ih, Int.add_assoc]
      | bonus flat =>
          simp only [List.map_cons, List.sum_cons, List.filterMap_cons, Part.dice?, Part.bonus?,
            Part.total, ih]
          omega

theorem rollsDice_of_mapM {groups : List Group} {parts : List Part} {desk finish : Desk State}
    (rolled : (groups.mapM (rollPart generator limit)).on desk = (.ok parts, finish)) :
    RollsDice generator limit desk (groups.filterMap Group.die?) (parts.filterMap Part.dice?) finish ∧
      parts.filterMap Part.bonus? = (groups.filterMap Group.bonus?).map Bonus.signed := by
  induction groups generalizing desk parts with
  | nil =>
      obtain ⟨rfl, rfl⟩ := Play.on_pure_eq_ok_iff.mp rolled
      exact ⟨.done, rfl⟩
  | cons group groups ih =>
      simp only [List.mapM_cons, Play.on_bind_eq_ok_iff, Play.on_pure_eq_ok_iff] at rolled
      obtain ⟨part, middle, first, others, _, later, rfl, rfl⟩ := rolled
      obtain ⟨dice, boni⟩ := ih later
      cases group with
      | bonus flat =>
          obtain ⟨rfl, rfl⟩ := Play.on_pure_eq_ok_iff.mp first
          exact ⟨dice, congrArg (flat.signed :: ·) boni⟩
      | dice die =>
          simp only [rollPart, Play.on_bind_eq_ok_iff, Play.on_pure_eq_ok_iff] at first
          obtain ⟨values, _, own, rfl, rfl⟩ := first
          refine ⟨?_, boni⟩
          have report : DieReport.ofValues die values = ⟨die, values, die.sign.sum values⟩ := by
            rw [DieReport.ofValues, die.sign.apply_totalOf, Int.zero_add]
          simp only [List.filterMap_cons, Part.dice?, Group.die?, report]
          exact .next own dice

/-- Rolling a bag for its total alone does what rolling it for its report does, down to the desk that is left and
the failure, and gives the total of the report; and the report accounts for every group of the bag. -/
theorem roll_accounts_for_rollTotal (generator : Generator State) (bag : Bag) (limit : Int)
    (desk : Desk State) :
    match (roll generator bag limit).on desk with
    | (.ok report, finish) =>
        (rollTotal generator bag limit).on desk = (.ok report.total, finish) ∧
          report.Accounts generator limit bag.groups desk finish
    | (.error failure, finish) =>
        (rollTotal generator bag limit).on desk = (.error failure, finish) := by
  have same : rollTotal generator bag limit = Report.total <$> roll generator bag limit := rollTotal_eq_map_roll bag
  have outcome := Play.on_bind (roll generator bag limit) (fun report => pure report.total) desk
  rw [bind_pure_comp, ← same] at outcome
  rw [outcome]
  cases rolled : (roll generator bag limit).on desk with
  | mk outcome finish =>
      cases outcome with
      | error failure => rfl
      | ok report =>
          obtain ⟨parts, _, made, ended⟩ := Play.on_bind_eq_ok_iff.mp rolled
          obtain ⟨rfl, rfl⟩ := Play.on_pure_eq_ok_iff.mp ended
          obtain ⟨dice, boni⟩ := rollsDice_of_mapM made
          refine ⟨rfl, ?_, ?_, ?_, ?_⟩
          · rwa [dice_ofParts]
          · rwa [bonus_ofParts]
          · rw [bonus_ofParts]
            rfl
          · rw [total_ofParts, dice_ofParts, bonus_ofParts]
            exact sum_totals_eq parts

end Report
end DiceNotation
