import DiceNotation.Play.Report
import DiceNotation.Proofs.Bag.Reading
import DiceNotation.Proofs.Play.Yields

/-!
# Rolling what was read

The bag of an expression can be rolled with every fair generator and every limit on explosions, and each of its die
groups keeps to the bounds that its clauses set. The one thing that can fail is the remark on a stopped chain, when
it is kept and the limit in it is too long to be written.
-/

set_option autoImplicit false

namespace DiceNotation

variable {State : Type} {generator : Generator State} {desk finish : Desk State} {limit : Int}

/-! ## One group -/

/-- The bounds that hold when a die group is rolled: the requests it makes and how many, and the values that
count and how many. -/
structure Die.RollsWithin (die : Die) (generator : Generator State) (limit : Int) (desk : Desk State)
    (survivors : List Int) (finish : Desk State) : Prop where
  rolled : (rollGroup generator die limit).on desk = (.ok survivors, finish)
  size : 1 ≤ die.size
  draws : ∃ number : Nat, (die.count : Int) ≤ number ∧
    (number : Int) ≤ die.count * (max limit 0 + 1) + die.reroll.count ∧
    finish.draws.toList = desk.draws.toList ++ List.replicate number (1, die.size)
  values : ∀ value ∈ survivors,
    (die.cutoff.bounds die.size).1 ≤ value ∧ value ≤ (die.cutoff.bounds die.size).2
  least : die.keptCount ≤ survivors.length
  exact : die.explosive = false → (survivors.length : Int) = die.keptCount

theorem Reroll.Fits.count_nonneg {reroll : Reroll} {size : Int} {count : Nat}
    (fits : reroll.Fits size count) : 0 ≤ reroll.count := by
  cases reroll with
  | never rerolls => exact Int.le_of_eq (Eq.symm fits)
  | above rerolls threshold => exact fits.1
  | below rerolls threshold => exact fits.1

namespace Die

variable {die : Die}

theorem WellFormed.rollsWithin (formed : die.WellFormed) (fair : generator.Fair) {survivors : List Int}
    (rolled : (rollGroup generator die limit).on desk = (.ok survivors, finish)) :
    die.RollsWithin generator limit desk survivors finish := by
  obtain ⟨drawn, yields, drew⟩ := yields_of_rollGroup rolled
  obtain ⟨least, most⟩ := yields.length_drawn
  obtain ⟨enough, exact⟩ := yields.length_survivors formed.drop
  refine ⟨rolled, formed.size, ⟨drawn.length, Int.ofNat_le.mpr least, ?_, drew.draws⟩,
    yields.inside formed.cutoff (drew.answers.inside (fair.between formed.size)), enough, exact⟩
  have rerolls := formed.reroll.count_nonneg
  have bound : (limit.toNat : Int) = max limit 0 := Int.toNat_eq_max ..
  have most : (drawn.length : Int) ≤ die.count * (limit.toNat + 1) + die.reroll.count.toNat := by
    exact_mod_cast most
  rw [bound, Int.toNat_of_nonneg rerolls] at most
  exact most

/-- The remarks that rolling a group may make can be made. -/
def Remarks (die : Die) (limit : Int) (journal : Journal) : Prop :=
  die.explosive = true → die.count ≠ 0 → journal.Takes .warning (cappedRemark die.size limit)

theorem Remarks.congr {journal other : Journal} (remarks : die.Remarks limit journal)
    (same : other.threshold = journal.threshold) : die.Remarks limit other :=
  fun explosive dice => (remarks explosive dice).congr same

theorem WellFormed.exists_rollGroup (formed : die.WellFormed) (fair : generator.Fair)
    (remarks : die.Remarks limit desk.journal) :
    ∃ survivors finish, (rollGroup generator die limit).on desk = (.ok survivors, finish) := by
  obtain ⟨drawn, survivors, source, yields, answers⟩ :=
    Yields.exists_of_fair formed (fair.between formed.size) limit desk.source
  obtain ⟨finish, rolled, _⟩ := yields.exists_rollGroup answers remarks
  exact ⟨survivors, finish, rolled⟩

end Die

/-! ## All groups of a bag -/

namespace Report

/-- A roll of the groups of a bag one after the other, each die group within its bounds. -/
inductive Runs (generator : Generator State) (limit : Int) :
    Desk State → List Group → List Part → Desk State → Prop where
  | done {desk : Desk State} : Runs generator limit desk [] [] desk
  | bonus {desk finish : Desk State} {flat : Bonus} {groups : List Group} {parts : List Part} :
      Runs generator limit desk groups parts finish →
      Runs generator limit desk (.bonus flat :: groups) (.bonus flat :: parts) finish
  | dice {desk middle finish : Desk State} {die : Die} {survivors : List Int} {groups : List Group}
      {parts : List Part} :
      die.RollsWithin generator limit desk survivors middle →
      Runs generator limit middle groups parts finish →
      Runs generator limit desk (.dice die :: groups) (.dice (.ofValues die survivors) :: parts) finish

theorem exists_runs {groups : List Group} (formed : ∀ group ∈ groups, group.WellFormed)
    (fair : generator.Fair) (remarks : ∀ die, .dice die ∈ groups → die.Remarks limit desk.journal) :
    ∃ parts finish, (groups.mapM (rollPart generator limit)).on desk = (.ok parts, finish) ∧
      Runs generator limit desk groups parts finish := by
  induction groups generalizing desk with
  | nil => exact ⟨[], desk, rfl, .done⟩
  | cons group groups ih =>
      have later := fun other member => formed other (List.mem_cons_of_mem group member)
      cases group with
      | bonus flat =>
          obtain ⟨parts, finish, rolled, runs⟩ := ih later fun die member =>
            remarks die (List.mem_cons_of_mem _ member)
          refine ⟨.bonus flat :: parts, finish, ?_, .bonus runs⟩
          simp only [List.mapM_cons, Play.on_bind_eq_ok_iff]
          exact ⟨_, desk, rfl, parts, finish, rolled, rfl⟩
      | dice die =>
          have own : die.WellFormed := formed (.dice die) List.mem_cons_self
          obtain ⟨survivors, middle, rolled⟩ := own.exists_rollGroup fair
            (remarks die List.mem_cons_self)
          obtain ⟨_, _, drew⟩ := yields_of_rollGroup rolled
          obtain ⟨parts, finish, others, runs⟩ := @ih middle later
            fun other member => (remarks other (List.mem_cons_of_mem _ member)).congr drew.threshold
          refine ⟨_, finish, ?_, .dice (own.rollsWithin fair rolled) runs⟩
          simp only [List.mapM_cons, Play.on_bind_eq_ok_iff]
          exact ⟨_, middle, Play.on_bind_eq_ok_iff.mpr ⟨_, middle, rolled, rfl⟩, parts, finish, others,
            rfl⟩

/-- Every die group of a run was rolled at some desk, with the same level of remarks as the first one. -/
theorem Runs.exists_rollGroup {groups : List Group} {parts : List Part}
    (runs : Runs generator limit desk groups parts finish) {die : Die}
    (member : .dice die ∈ groups) :
    ∃ before survivors after, before.journal.threshold = desk.journal.threshold ∧
      (rollGroup generator die limit).on before = (.ok survivors, after) := by
  induction runs with
  | done => cases member
  | bonus _ ih =>
      rcases List.mem_cons.mp member with same | member
      · cases same
      · exact ih member
  | dice within _ ih =>
      rcases List.mem_cons.mp member with same | member
      · cases same
        exact ⟨_, _, _, rfl, within.rolled⟩
      · obtain ⟨before, survivors, after, same, rolled⟩ := ih member
        obtain ⟨_, _, drew⟩ := yields_of_rollGroup within.rolled
        exact ⟨before, survivors, after, same.trans drew.threshold, rolled⟩

end Report

/-! ## The highest rolls -/

/-- Answers every request with the upper bound. -/
def Generator.highest : Generator Unit where
  draw _ _ high := (.ok high, ())

theorem Generator.fair_highest : highest.Fair :=
  fun _ _ high ordered => ⟨high, (), rfl, ordered, Int.le_refl _⟩

/-- A chain of highest faces only ends with a remark. -/
theorem takes_of_chainFrom_highest {size : Int} {extra : Nat} {before values : List Int}
    {desk finish : Desk Unit}
    (rolled : (chainFrom .highest size limit extra before).on desk = (.ok values, finish)) :
    desk.journal.Takes .warning (cappedRemark size limit) := by
  induction extra generalizing desk before with
  | zero =>
      simp only [chainFrom, Play.on_bind_eq_ok_iff] at rolled
      obtain ⟨value, middle, drawn, rolled⟩ := rolled
      obtain ⟨source, answer, rfl⟩ := Play.on_draw_eq_ok_iff.mp drawn
      cases answer
      rw [if_pos rfl] at rolled
      obtain ⟨_, after, noted, _⟩ := Play.on_bind_eq_ok_iff.mp rolled
      have takes := Play.exists_on_note_eq_ok_iff.mp ⟨after, noted⟩
      exact takes
  | succ extra ih =>
      simp only [chainFrom, Play.on_bind_eq_ok_iff] at rolled
      obtain ⟨value, middle, drawn, rolled⟩ := rolled
      obtain ⟨source, answer, rfl⟩ := Play.on_draw_eq_ok_iff.mp drawn
      cases answer
      rw [if_pos rfl] at rolled
      have takes := ih rolled
      exact takes

theorem Die.remarks_of_rollGroup_highest {die : Die} {survivors : List Int} {desk finish : Desk Unit}
    (rolled : (rollGroup .highest die limit).on desk = (.ok survivors, finish)) :
    die.Remarks limit desk.journal := by
  intro explosive dice
  obtain ⟨rolls, middle, raw, _⟩ := Play.on_bind_eq_ok_iff.mp rolled
  rw [rollDice, if_pos explosive] at raw
  obtain ⟨chains, _, repeated, _⟩ := Play.on_bind_eq_ok_iff.mp raw
  obtain ⟨size, repeats⟩ := Play.on_times_eq_ok_iff.mp repeated
  cases repeats with
  | nil => exact absurd size.symm dice
  | cons chain _ => exact takes_of_chainFrom_highest chain

/-! ## The bag of an expression -/

/-- The bag of an expression is rolled within its bounds by every fair generator exactly when no remark on a
stopped chain gets in the way: the limit can be written, or the remark is not kept, or no die explodes. -/
theorem Bag.roll_succeeds_iff {text : Text} {bag : Bag} (read : ofText text = .ok bag) (limit : Int)
    (threshold : Level) :
    (∀ (State : Type) (generator : Generator State), generator.Fair →
        ∀ desk : Desk State, desk.journal.threshold = threshold →
          ∃ parts finish, (Report.roll generator bag limit).on desk = (.ok (.ofParts parts), finish) ∧
            Report.Runs generator limit desk bag.groups parts finish) ↔
      Numeral.fits limit = true ∨ Level.warning.rank < threshold.rank ∨
        ∀ die, .dice die ∈ bag.groups → die.explosive = true → die.count = 0 := by
  constructor
  · intro succeeds
    by_cases silent : Level.warning.rank < threshold.rank
    · exact .inr (.inl silent)
    · refine or_iff_not_imp_left.mpr fun long => .inr ?_
      intro die member explosive
      -- With the highest faces every chain is stopped, so every remark that may come up does.
      let desk : Desk Unit := { source := (), journal := { threshold } }
      obtain ⟨parts, finish, _, runs⟩ := succeeds Unit .highest Generator.fair_highest desk rfl
      obtain ⟨before, survivors, after, same, rolled⟩ := runs.exists_rollGroup member
      by_contra dice
      have takes := die.remarks_of_rollGroup_highest rolled explosive dice
      have kept : before.journal.keeps .warning = true := by
        rw [Journal.keeps, same]
        exact decide_eq_true (Nat.not_lt.mp silent)
      exact long (takes kept (.number limit) (by simp [cappedRemark]))
  · intro fits State generator fair desk same
    have remarks : ∀ die, .dice die ∈ bag.groups → die.Remarks limit desk.journal := by
      intro die member explosive dice kept piece part
      rcases fits with short | silent | plain
      · have size := fits_size_of_ofText read member
        simp only [cappedRemark, List.mem_cons, List.not_mem_nil, or_false] at part
        rcases part with rfl | rfl | rfl | rfl | rfl
        · rfl
        · exact size
        · rfl
        · exact short
        · rfl
      · rw [Journal.keeps, same, decide_eq_true_eq] at kept
        omega
      · exact absurd (plain die member explosive) dice
    obtain ⟨parts, finish, rolled, runs⟩ :=
      Report.exists_runs (wellFormed_of_ofText read).groups fair remarks
    exact ⟨parts, finish, Play.on_bind_eq_ok_iff.mpr ⟨parts, finish, rolled, rfl⟩, runs⟩

/-- Three exploding dice without their lowest roll, less a bonus of two. -/
theorem Bag.roll_succeeds_exploding_drop :
    let bag : Bag :=
      { groups := [.dice { size := 6, count := 3, drop := .lowest 1, explosive := true },
          .bonus { value := 2, sign := .minus }] }
    let desk : Desk Unit := { source := () }
    Bag.ofText (Text.of "3d6dl1!-2") = .ok bag ∧
      ∃ parts finish, (Report.roll .highest bag 100).on desk = (.ok (.ofParts parts), finish) ∧
        Report.Runs .highest 100 desk bag.groups parts finish := by
  intro bag desk
  have read : Bag.ofText (Text.of "3d6dl1!-2") = .ok bag := by decide +kernel
  have short : Numeral.fits 100 = true := by decide +kernel
  exact ⟨read, (Bag.roll_succeeds_iff read 100 .warning).mpr (.inl short) Unit .highest
    Generator.fair_highest desk rfl⟩

/-- A chain that stops under a limit of more digits than a number may have to be written fails the roll. -/
theorem Bag.roll_fails_of_unwritable_limit :
    let bag : Bag := { groups := [.dice { size := 1, explosive := true }] }
    let limit : Int := -(Numeral.powerOfTen Numeral.digitLimit : Int)
    Bag.ofText (Text.of "1d1!") = .ok bag ∧ Generator.highest.Fair ∧
      ((Report.roll .highest bag limit).on { source := () }).1 = .error .numberTooLong :=
  ⟨by decide +kernel, Generator.fair_highest, by decide +kernel⟩

end DiceNotation
