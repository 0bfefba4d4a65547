import DiceNotation.Proofs.Play.Steps
import DiceNotation.Session.Commands

/-!
# Plays only add to their desk

A play depends on its desk through the source of numbers and through the level of the remarks that are kept, and on
nothing else that lies there. What it draws, remarks and shows comes after what was there before.
-/

set_option autoImplicit false

namespace DiceNotation

variable {State : Type}

namespace Desk

/-- An empty desk with the same source that keeps the same remarks. -/
def cleared (desk : Desk State) : Desk State :=
  { source := desk.source, journal := { threshold := desk.journal.threshold } }

/-- `finish` holds what lies on `desk`, then what lies on `own`, and goes on from the source of `own`. -/
structure Extends (desk own finish : Desk State) : Prop where
  source : finish.source = own.source
  ownThreshold : own.journal.threshold = desk.journal.threshold
  threshold : finish.journal.threshold = desk.journal.threshold
  draws : finish.draws.toList = desk.draws.toList ++ own.draws.toList
  remarks : finish.journal.remarks = desk.journal.remarks ++ own.journal.remarks
  events : finish.events = desk.events ++ own.events

variable {desk own middle later total finish : Desk State}

theorem extends_cleared (desk : Desk State) : desk.Extends desk.cleared desk where
  source := rfl
  ownThreshold := rfl
  threshold := rfl
  draws := (List.append_nil _).symm
  remarks := (List.append_nil _).symm
  events := (List.append_nil _).symm

theorem Extends.cleared_eq (extended : desk.Extends own finish) : finish.cleared = own.cleared := by
  rw [cleared, cleared, extended.source, extended.threshold, extended.ownThreshold]

theorem Extends.trans (first : desk.Extends own middle) (second : middle.Extends later finish)
    (both : own.Extends later total) : desk.Extends total finish where
  source := second.source.trans both.source.symm
  ownThreshold := both.threshold.trans first.ownThreshold
  threshold := second.threshold.trans first.threshold
  draws := by rw [second.draws, first.draws, both.draws, List.append_assoc]
  remarks := by rw [second.remarks, first.remarks, both.remarks, List.append_assoc]
  events := by rw [second.events, first.events, both.events, List.append_assoc]

end Desk

namespace Play

variable {Value Result : Type}

/-- The play has the same outcome on a cleared desk, and adds to its desk what it leaves on the cleared one. -/
def Local (play : Play State Result) : Prop :=
  ∀ desk, (play.on desk).1 = (play.on desk.cleared).1 ∧ desk.Extends (play.on desk.cleared).2 (play.on desk).2

theorem Local.exists_on {play : Play State Result} (framed : Local play) (desk : Desk State) :
    ∃ outcome own finish, play.on desk.cleared = (outcome, own) ∧ play.on desk = (outcome, finish) ∧
      desk.Extends own finish := by
  obtain ⟨same, extended⟩ := framed desk
  exact ⟨_, _, (play.on desk).2, rfl, Prod.ext same rfl, extended⟩

/-! ## Steps -/

theorem local_pure (result : Result) : Local (pure result : Play State Result) :=
  fun desk => ⟨rfl, desk.extends_cleared⟩

theorem local_lift (outcome : Except Failure Result) : Local (lift outcome : Play State Result) :=
  fun desk => ⟨rfl, desk.extends_cleared⟩

theorem local_present (console : Console) (event : Console.Event) :
    Local (present console event : Play State Unit) := by
  intro desk
  cases taken : console.takes event with
  | false =>
      rw [on_present_of_refused taken, on_present_of_refused taken]
      exact ⟨rfl, desk.extends_cleared⟩
  | true =>
      rw [on_present, on_present, taken]
      exact ⟨rfl, { desk.extends_cleared with events := List.reverse_cons }⟩

theorem local_draw (generator : Generator State) (low high : Int) : Local (draw generator low high) := by
  intro desk
  rcases answer : generator.draw desk.source low high with ⟨failure | value, source⟩
  · have alone : (draw generator low high).on desk.cleared = _ := on_draw_of_failure answer
    rw [on_draw_of_failure answer, alone]
    exact ⟨rfl, { desk.extends_cleared with source := rfl }⟩
  · have alone : (draw generator low high).on desk.cleared = _ := on_draw_of_answer answer
    rw [on_draw_of_answer answer, alone]
    exact ⟨rfl, { desk.extends_cleared with source := rfl, draws := Draws.toList_add desk.draws low high }⟩

theorem local_note (level : Level) (origin : Origin) (remark : Phrase) :
    Local (note level origin remark : Play State Unit) := by
  intro desk
  have same : desk.cleared.journal.keeps level = desk.journal.keeps level := rfl
  rw [on_note, on_note, same]
  split
  · cases remark.write with
    | error failure => exact ⟨rfl, desk.extends_cleared⟩
    | ok text =>
        refine ⟨rfl, { desk.extends_cleared with remarks := ?_ }⟩
        exact List.reverse_cons
  · exact ⟨rfl, desk.extends_cleared⟩

/-! ## Sequences -/

/-- What follows on an extended desk adds to it what it adds to its own part. -/
theorem Local.after {next : Play State Result} {desk own middle : Desk State} (followed : Local next)
    (extended : desk.Extends own middle) :
    (next.on middle).1 = (next.on own).1 ∧ desk.Extends (next.on own).2 (next.on middle).2 := by
  obtain ⟨sameHere, here⟩ := followed middle
  obtain ⟨sameOwn, both⟩ := followed own
  rw [extended.cleared_eq] at sameHere here
  exact ⟨sameHere.trans sameOwn.symm, extended.trans here both⟩

theorem Local.bind {play : Play State Value} {next : Value → Play State Result} (first : Local play)
    (second : ∀ value, Local (next value)) : Local (play >>= next) := by
  intro desk
  obtain ⟨outcome, own, middle, alone, here, extended⟩ := first.exists_on desk
  rw [on_bind, on_bind, alone, here]
  cases outcome with
  | error failure => exact ⟨rfl, extended⟩
  | ok value => exact (second value).after extended

theorem Local.tryCatch {play : Play State Result} {handle : Failure → Play State Result} (first : Local play)
    (second : ∀ failure, Local (handle failure)) : Local (tryCatch play handle) := by
  intro desk
  obtain ⟨outcome, own, middle, alone, here, extended⟩ := first.exists_on desk
  rw [on_tryCatch, on_tryCatch, alone, here]
  cases outcome with
  | ok value => exact ⟨rfl, extended⟩
  | error failure => exact (second failure).after extended

theorem local_throw (failure : Failure) : Local (throw failure : Play State Result) :=
  local_lift (.error failure)

theorem Local.timesFrom {play : Play State Result} (each : Local play) (count : Nat) (before : List Result) :
    Local (timesFrom play count before) := by
  induction count generalizing before with
  | zero => exact local_pure _
  | succ count ih => exact each.bind fun result => ih (result :: before)

theorem Local.times {play : Play State Result} (each : Local play) (count : Nat) : Local (times count play) :=
  each.timesFrom count []

theorem local_mapM {step : Value → Play State Result} (each : ∀ value, Local (step value)) (values : List Value) :
    Local (values.mapM step) := by
  induction values with
  | nil => exact local_pure _
  | cons value values ih =>
      rw [List.mapM_cons]
      exact (each value).bind fun _ => ih.bind fun _ => local_pure _

end Play

/-! ## Rolling -/

open Play

theorem local_chainFrom (generator : Generator State) (size limit : Int) (extra : Nat) (before : List Int) :
    Local (chainFrom generator size limit extra before) := by
  induction extra generalizing before with
  | zero =>
      refine (local_draw generator 1 size).bind fun value => ?_
      dsimp only
      split
      · exact (local_note _ _ _).bind fun _ => local_pure _
      · exact local_pure _
  | succ extra ih =>
      refine (local_draw generator 1 size).bind fun value => ?_
      split
      · exact ih (value :: before)
      · exact local_pure _

theorem local_rollDice (generator : Generator State) (die : Die) (limit : Int) :
    Local (rollDice generator die limit) := by
  unfold rollDice
  split
  · exact ((local_chainFrom generator die.size limit limit.toNat []).times die.count).bind fun _ => local_pure _
  · exact (local_draw generator 1 die.size).times die.count

theorem local_rollAgainFrom (generator : Generator State) (die : Die) (values : List Int) (left : Nat)
    (passed : List Int) : Local (rollAgainFrom generator die values left passed) := by
  induction values generalizing left passed with
  | nil => cases left <;> exact local_pure _
  | cons value values ih =>
      cases left with
      | zero => exact local_pure _
      | succ left =>
          rw [rollAgainFrom]
          split
          · exact (local_draw generator 1 die.size).bind fun fresh => ih left (fresh :: passed)
          · exact ih (left + 1) (value :: passed)

theorem local_rollGroup (generator : Generator State) (die : Die) (limit : Int) :
    Local (rollGroup generator die limit) :=
  (local_rollDice generator die limit).bind fun _ =>
    (local_rollAgainFrom generator die _ _ _).bind fun _ => local_lift _

theorem Report.local_roll (generator : Generator State) (bag : Bag) (limit : Int) :
    Local (Report.roll generator bag limit) := by
  refine (local_mapM ?_ bag.groups).bind fun _ => local_pure _
  intro group
  cases group with
  | bonus flat => exact local_pure _
  | dice die => exact (local_rollGroup generator die limit).bind fun _ => local_pure _

/-! ## Commands -/

theorem Display.local_print (console : Console) (markup : Phrase) :
    Local (Display.print console markup : Play State Unit) :=
  (local_lift _).bind fun _ => local_present _ _

theorem Display.local_showRoll (console : Console) (bag : Bag) (report : Report) (showRolls : Bool) :
    Local (Display.showRoll console bag report showRolls : Play State Unit) := by
  unfold Display.showRoll
  split
  · exact (local_lift _).bind fun _ => (local_present _ _).bind fun _ => Display.local_print _ _
  · exact Display.local_print _ _

theorem Session.local_readBag (console : Console) (expression : Text) :
    Local (Session.readBag console expression : Play State (Option Bag)) := by
  refine Local.tryCatch ?_ fun failure => ?_
  · exact ((local_lift _).bind fun _ => (local_note _ _ _).bind fun _ => local_pure _).bind fun _ => local_pure _
  · split
    · exact (local_note _ _ _).bind fun _ => (Display.local_print _ _).bind fun _ => local_pure _
    · exact local_throw _

theorem Session.local_roll (console : Console) (generator : Generator State) (settings : Settings) (expression : Text)
    (times : Int) : Local (Session.roll console generator settings expression times) := by
  refine (Session.local_readBag console expression).bind fun found => ?_
  cases found with
  | none => exact local_pure _
  | some bag =>
      refine Local.times ?_ times.toNat
      exact (Report.local_roll generator bag settings.explosionLimit).bind fun report =>
        (Display.local_showRoll console bag report settings.showRolls).bind fun _ => local_pure _

end DiceNotation
