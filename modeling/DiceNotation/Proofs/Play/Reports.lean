import DiceNotation.Proofs.Play.Accounts
import DiceNotation.Proofs.Play.Safety
import DiceNotation.Proofs.Play.Totals

/-!
# Reports that can come up

A fair generator brings up a report whose parts are all possible, and a generator that replays a script brings up
each such report, wherever the level of remarks is the same and remarks on stopped chains can be made.
-/

set_option autoImplicit false

namespace DiceNotation

variable {State : Type} {generator : Generator State} {limit : Int} {desk finish : Desk State}

/-! ## Plays that succeed wherever something holds -/

/-- A play that succeeds wherever something holds, and keeps it, succeeds any number of times in a row. -/
theorem Play.exists_repeats {Result : Type} {play : Play State Result} {Holds : Desk State → Prop}
    {Good : Result → Prop}
    (succeeds : ∀ desk, Holds desk → ∃ result finish, play.on desk = (.ok result, finish) ∧ Holds finish ∧ Good result)
    (count : Nat) (holds : Holds desk) :
    ∃ results finish, results.length = count ∧ play.Repeats desk results finish ∧ ∀ result ∈ results, Good result := by
  induction count generalizing desk with
  | zero => exact ⟨[], desk, rfl, .nil, by simp⟩
  | succ count ih =>
      obtain ⟨result, middle, played, still, good⟩ := succeeds desk holds
      obtain ⟨results, finish, length, repeats, others⟩ := ih still
      exact ⟨result :: results, finish, by rw [List.length_cons, length], .cons played repeats,
        List.forall_mem_cons.mpr ⟨good, others⟩⟩

namespace Report

/-! ## Parts that can come up -/

/-- What one group can contribute to a report. -/
inductive CanPart (limit : Int) : Group → Part → Prop where
  | bonus {flat : Bonus} : CanPart limit (.bonus flat) (.bonus flat)
  | dice {die : Die} {drawn survivors : List Int} : die.Yields limit drawn survivors →
      (∀ value ∈ drawn, 1 ≤ value ∧ value ≤ die.size) →
      CanPart limit (.dice die) (.dice (.ofValues die survivors))

theorem threshold_of_rollPart {group : Group} {part : Part}
    (rolled : (rollPart generator limit group).on desk = (.ok part, finish)) :
    finish.journal.threshold = desk.journal.threshold := by
  cases group with
  | bonus flat =>
      obtain ⟨_, rfl⟩ := Play.on_pure_eq_ok_iff.mp rolled
      rfl
  | dice die =>
      simp only [rollPart, Play.on_bind_eq_ok_iff, Play.on_pure_eq_ok_iff] at rolled
      obtain ⟨survivors, _, values, _, rfl⟩ := rolled
      obtain ⟨_, _, drew⟩ := yields_of_rollGroup values
      exact drew.threshold

theorem threshold_of_mapM {groups : List Group} {parts : List Part}
    (rolled : (groups.mapM (rollPart generator limit)).on desk = (.ok parts, finish)) :
    finish.journal.threshold = desk.journal.threshold := by
  induction groups generalizing desk parts with
  | nil =>
      obtain ⟨_, rfl⟩ := Play.on_pure_eq_ok_iff.mp rolled
      rfl
  | cons group groups ih =>
      simp only [List.mapM_cons, Play.on_bind_eq_ok_iff, Play.on_pure_eq_ok_iff] at rolled
      obtain ⟨part, middle, first, others, _, later, _, rfl⟩ := rolled
      exact (ih later).trans (threshold_of_rollPart first)

theorem canPart_of_rollPart (fair : generator.Fair) {group : Group} {part : Part} (formed : group.WellFormed)
    (rolled : (rollPart generator limit group).on desk = (.ok part, finish)) : CanPart limit group part := by
  cases group with
  | bonus flat =>
      obtain ⟨rfl, _⟩ := Play.on_pure_eq_ok_iff.mp rolled
      exact .bonus
  | dice die =>
      simp only [rollPart, Play.on_bind_eq_ok_iff, Play.on_pure_eq_ok_iff] at rolled
      obtain ⟨survivors, _, values, rfl, _⟩ := rolled
      have own : die.WellFormed := formed
      obtain ⟨drawn, yields, drew⟩ := yields_of_rollGroup values
      exact .dice yields (drew.answers.inside (fair.between own.size))

theorem canParts_of_mapM (fair : generator.Fair) {groups : List Group} {parts : List Part}
    (formed : ∀ group ∈ groups, group.WellFormed)
    (rolled : (groups.mapM (rollPart generator limit)).on desk = (.ok parts, finish)) :
    List.Forall₂ (CanPart limit) groups parts := by
  induction groups generalizing desk parts with
  | nil =>
      obtain ⟨rfl, _⟩ := Play.on_pure_eq_ok_iff.mp rolled
      exact .nil
  | cons group groups ih =>
      obtain ⟨own, formed⟩ := List.forall_mem_cons.mp formed
      simp only [List.mapM_cons, Play.on_bind_eq_ok_iff, Play.on_pure_eq_ok_iff] at rolled
      obtain ⟨part, middle, first, others, _, later, rfl, rfl⟩ := rolled
      exact .cons (canPart_of_rollPart fair own first) (ih formed later)

theorem CanPart.exists_script {group : Group} {part : Part} (can : CanPart limit group part) :
    ∃ script : List Int, ∀ (rest : List Int) (desk : Desk (List Int)), desk.source = script ++ rest →
      (∀ die, .dice die = group → die.Remarks limit desk.journal) →
        ∃ finish, (rollPart .replay limit group).on desk = (.ok part, finish) ∧ finish.source = rest := by
  cases can with
  | bonus => exact ⟨[], fun rest desk same _ => ⟨desk, rfl, same⟩⟩
  | @dice die drawn survivors yields faces =>
      refine ⟨drawn, fun rest desk same remarks => ?_⟩
      have answers := same ▸ Generator.answers_replay faces rest
      obtain ⟨finish, rolled, left⟩ := yields.exists_rollGroup answers (remarks die rfl)
      exact ⟨finish, Play.on_bind_eq_ok_iff.mpr ⟨_, finish, rolled, rfl⟩, left⟩

/-- A script leads to each list of parts that can come up: every group leaves the script of the later ones. -/
theorem exists_script {groups : List Group} {parts : List Part} (can : List.Forall₂ (CanPart limit) groups parts) :
    ∃ script : List Int, ∀ (rest : List Int) (desk : Desk (List Int)), desk.source = script ++ rest →
      (∀ die, .dice die ∈ groups → die.Remarks limit desk.journal) →
        ∃ finish, (groups.mapM (rollPart .replay limit)).on desk = (.ok parts, finish) ∧ finish.source = rest := by
  induction can with
  | nil => exact ⟨[], fun rest desk same _ => ⟨desk, rfl, same⟩⟩
  | @cons group part groups parts own _ ih =>
      obtain ⟨script, leads⟩ := own.exists_script
      obtain ⟨others, later⟩ := ih
      refine ⟨script ++ others, fun rest desk same remarks => ?_⟩
      rw [List.append_assoc] at same
      obtain ⟨middle, rolled, left⟩ := leads (others ++ rest) desk same fun die equal =>
        remarks die (equal ▸ List.mem_cons_self)
      obtain ⟨finish, rest, ended⟩ := later rest middle left fun die member =>
        (remarks die (List.mem_cons_of_mem _ member)).congr (threshold_of_rollPart rolled)
      refine ⟨finish, ?_, ended⟩
      simp only [List.mapM_cons, Play.on_bind_eq_ok_iff]
      exact ⟨part, middle, rolled, parts, finish, rest, rfl⟩

variable {bag : Bag} {report : Report}

theorem on_roll_eq_ok_iff :
    (roll generator bag limit).on desk = (.ok report, finish) ↔
      ∃ parts, (bag.groups.mapM (rollPart generator limit)).on desk = (.ok parts, finish) ∧ ofParts parts = report := by
  rw [roll, Play.on_bind_eq_ok_iff]
  constructor
  · intro given
    obtain ⟨parts, _, rolled, ended⟩ := given
    obtain ⟨rfl, rfl⟩ := Play.on_pure_eq_ok_iff.mp ended
    exact ⟨parts, rolled, rfl⟩
  · intro given
    obtain ⟨parts, rolled, rfl⟩ := given
    exact ⟨parts, finish, rolled, rfl⟩

theorem threshold_of_roll (rolled : (roll generator bag limit).on desk = (.ok report, finish)) :
    finish.journal.threshold = desk.journal.threshold := by
  obtain ⟨parts, parted, _⟩ := on_roll_eq_ok_iff.mp rolled
  exact threshold_of_mapM parted

theorem on_rollTotal_eq_ok_iff {total : Int} :
    (rollTotal generator bag limit).on desk = (.ok total, finish) ↔
      ∃ report, (roll generator bag limit).on desk = (.ok report, finish) ∧ report.total = total := by
  rw [rollTotal_eq_map_roll, ← bind_pure_comp, Play.on_bind_eq_ok_iff]
  constructor
  · intro given
    obtain ⟨report, _, rolled, ended⟩ := given
    obtain ⟨rfl, rfl⟩ := Play.on_pure_eq_ok_iff.mp ended
    exact ⟨report, rolled, rfl⟩
  · intro given
    obtain ⟨report, rolled, rfl⟩ := given
    exact ⟨report, finish, rolled, rfl⟩

end Report

/-- A report that comes up with some fair generator. -/
def Bag.CanReport (bag : Bag) (limit : Int) (report : Report) : Prop :=
  ∃ (State : Type) (generator : Generator State) (desk finish : Desk State),
    generator.Fair ∧ (Report.roll generator bag limit).on desk = (.ok report, finish)

namespace Bag

variable {bag : Bag} {report : Report}

theorem canTotal_iff_exists_canReport {total : Int} :
    bag.CanTotal limit total ↔ ∃ report, bag.CanReport limit report ∧ report.total = total := by
  constructor
  · intro given
    obtain ⟨State, generator, desk, finish, fair, rolled⟩ := given
    obtain ⟨report, made, same⟩ := Report.on_rollTotal_eq_ok_iff.mp rolled
    exact ⟨report, ⟨State, generator, desk, finish, fair, made⟩, same⟩
  · intro given
    obtain ⟨report, ⟨State, generator, desk, finish, fair, made⟩, same⟩ := given
    exact ⟨State, generator, desk, finish, fair, Report.on_rollTotal_eq_ok_iff.mpr ⟨report, made, same⟩⟩

theorem CanReport.exists_canParts (formed : ∀ group ∈ bag.groups, group.WellFormed)
    (can : bag.CanReport limit report) :
    ∃ parts, List.Forall₂ (Report.CanPart limit) bag.groups parts ∧ Report.ofParts parts = report := by
  obtain ⟨State, generator, desk, finish, fair, rolled⟩ := can
  obtain ⟨parts, made, same⟩ := Report.on_roll_eq_ok_iff.mp rolled
  exact ⟨parts, Report.canParts_of_mapM fair formed made, same⟩

theorem CanReport.exists_script (formed : ∀ group ∈ bag.groups, group.WellFormed)
    (can : bag.CanReport limit report) :
    ∃ script : List Int, ∀ (rest : List Int) (desk : Desk (List Int)), desk.source = script ++ rest →
      (∀ die, .dice die ∈ bag.groups → die.Remarks limit desk.journal) →
        ∃ finish, (Report.roll .replay bag limit).on desk = (.ok report, finish) ∧ finish.source = rest := by
  obtain ⟨parts, possible, same⟩ := can.exists_canParts formed
  obtain ⟨script, leads⟩ := Report.exists_script possible
  refine ⟨script, fun rest desk source remarks => ?_⟩
  obtain ⟨finish, rolled, left⟩ := leads rest desk source remarks
  exact ⟨finish, Report.on_roll_eq_ok_iff.mpr ⟨parts, rolled, same⟩, left⟩

theorem CanTotal.exists_repeats {total : Int} (formed : ∀ group ∈ bag.groups, group.WellFormed)
    (can : bag.CanTotal limit total) (count : Nat) :
    ∃ script : List Int, ∀ desk : Desk (List Int), desk.source = script →
      (∀ die, .dice die ∈ bag.groups → die.Remarks limit desk.journal) →
        ∃ finish, (rollTotal .replay bag limit).Repeats desk (List.replicate count total) finish := by
  obtain ⟨report, possible, same⟩ := canTotal_iff_exists_canReport.mp can
  obtain ⟨script, leads⟩ := possible.exists_script formed
  refine ⟨(List.replicate count script).flatten, ?_⟩
  induction count with
  | zero => exact fun desk _ _ => ⟨desk, .nil⟩
  | succ count ih =>
      intro desk source remarks
      rw [List.replicate_succ, List.flatten_cons] at source
      obtain ⟨middle, rolled, left⟩ := leads _ desk source remarks
      obtain ⟨finish, repeats⟩ := ih middle left fun die member =>
        (remarks die member).congr (Report.threshold_of_roll rolled)
      exact ⟨finish, .cons (Report.on_rollTotal_eq_ok_iff.mpr ⟨report, rolled, same⟩) repeats⟩

theorem exists_roll (formed : ∀ group ∈ bag.groups, group.WellFormed) (fair : generator.Fair)
    (remarks : ∀ die, .dice die ∈ bag.groups → die.Remarks limit desk.journal) :
    ∃ report finish, (Report.roll generator bag limit).on desk = (.ok report, finish) := by
  obtain ⟨parts, finish, rolled, _⟩ := Report.exists_runs formed fair remarks
  exact ⟨_, finish, Report.on_roll_eq_ok_iff.mpr ⟨parts, rolled, rfl⟩⟩

end Bag

end DiceNotation
