import DiceNotation.Die.WellFormed
import DiceNotation.Proofs.Play.Yields

/-!
# Totals that can come up

Which totals a bag can have when every draw shows a face of its die, with any fair generator. They are the sums of
what the groups can be worth, one after the other, and a generator that replays a script brings up each of them.
-/

set_option autoImplicit false

namespace DiceNotation

/-! ## Scripts -/

namespace Generator

/-- Answers with the numbers of a script, each moved between the bounds of the request, and with the lower bound
when the script is over. -/
def replay : Generator (List Int) where
  draw
    | [], low, _ => (.ok low, [])
    | value :: rest, low, high => (.ok (max low (min value high)), rest)

theorem fair_replay : replay.Fair := by
  intro script low high ordered
  cases script with
  | nil => exact ⟨low, [], rfl, Int.le_refl _, ordered⟩
  | cons value rest => exact ⟨max low (min value high), rest, rfl, by omega, by omega⟩

theorem answers_replay {low high : Int} {values : List Int}
    (inside : ∀ value ∈ values, low ≤ value ∧ value ≤ high) (rest : List Int) :
    replay.Answers low high (values ++ rest) values rest := by
  induction values with
  | nil => exact .nil
  | cons value values ih =>
      obtain ⟨atLeast, atMost⟩ := inside value List.mem_cons_self
      have answer : replay.draw (value :: (values ++ rest)) low high = (.ok value, values ++ rest) := by
        simp only [replay, Prod.mk.injEq, Except.ok.injEq, and_true]
        omega
      exact .cons answer (ih fun other member => inside other (List.mem_cons_of_mem _ member))

end Generator

/-! ## Worths and totals -/

/-- A total that comes up with some fair generator. -/
def Bag.CanTotal (bag : Bag) (limit total : Int) : Prop :=
  ∃ (State : Type) (generator : Generator State) (desk finish : Desk State),
    generator.Fair ∧ (rollTotal generator bag limit).on desk = (.ok total, finish)

/-- What a group can be worth, without its sign. -/
inductive Group.CanYield (limit : Int) : Group → Int → Prop where
  | bonus {flat : Bonus} : CanYield limit (.bonus flat) flat.value
  | dice {die : Die} {drawn survivors : List Int} : die.Yields limit drawn survivors →
      (∀ value ∈ drawn, 1 ≤ value ∧ value ≤ die.size) →
      CanYield limit (.dice die) (totalOf survivors)

/-- A total before some groups and a total after them. -/
inductive CanReach (limit : Int) : Int → List Group → Int → Prop where
  | done {total : Int} : CanReach limit total [] total
  | add {total worth final : Int} {group : Group} {groups : List Group} :
      group.CanYield limit worth → CanReach limit (group.sign.apply total worth) groups final →
      CanReach limit total (group :: groups) final

theorem Bonus.add_signed (flat : Bonus) (total : Int) :
    total + flat.signed = flat.sign.apply total flat.value := by
  rw [signed]
  cases flat.sign <;> simp only [Sign.apply] <;> omega

variable {State : Type} {generator : Generator State} {limit : Int}

/-- A fair generator reaches only totals that can be reached. -/
theorem canReach_of_foldlM (fair : generator.Fair) {groups : List Group}
    (formed : ∀ group ∈ groups, group.WellFormed) {total final : Int} {desk finish : Desk State}
    (rolled : (groups.foldlM (addToTotal generator limit) total).on desk = (.ok final, finish)) :
    CanReach limit total groups final := by
  induction groups generalizing total desk with
  | nil =>
      obtain ⟨rfl, _⟩ := Play.on_pure_eq_ok_iff.mp rolled
      exact .done
  | cons group groups ih =>
      rw [List.foldlM_cons, Play.on_bind_eq_ok_iff] at rolled
      obtain ⟨after, middle, added, rest⟩ := rolled
      have later := ih (fun other member => formed other (List.mem_cons_of_mem _ member)) rest
      cases group with
      | bonus flat =>
          obtain ⟨rfl, _⟩ := Play.on_pure_eq_ok_iff.mp added
          rw [flat.add_signed] at later
          exact .add .bonus later
      | dice die =>
          obtain ⟨survivors, _, values, ended⟩ := Play.on_bind_eq_ok_iff.mp added
          obtain ⟨rfl, _⟩ := Play.on_pure_eq_ok_iff.mp ended
          have own : die.WellFormed := formed (.dice die) List.mem_cons_self
          obtain ⟨drawn, yields, drew⟩ := yields_of_rollGroup values
          exact .add (.dice yields (drew.answers.inside (fair.between own.size))) later

/-- A script leads to each total that can be reached. -/
theorem CanReach.exists_script {groups : List Group} {total final : Int}
    (reach : CanReach limit total groups final) :
    ∃ script : List Int, ∀ (rest : List Int) (desk : Desk (List Int)),
      desk.source = script ++ rest → desk.journal.keeps .warning = false →
        ∃ finish, (groups.foldlM (addToTotal Generator.replay limit) total).on desk =
          (.ok final, finish) ∧ finish.source = rest := by
  induction reach with
  | done => exact ⟨[], fun rest desk same _ => ⟨desk, rfl, same⟩⟩
  | @add total worth final group groups yields _ ih =>
      obtain ⟨script, later⟩ := ih
      cases yields with
      | @bonus flat =>
          refine ⟨script, fun rest desk same quiet => ?_⟩
          obtain ⟨finish, rolled, left⟩ := later rest desk same quiet
          refine ⟨finish, ?_, left⟩
          rw [List.foldlM_cons, Play.on_bind_eq_ok_iff]
          exact ⟨_, desk, congrArg (fun total => (Except.ok total, desk)) (flat.add_signed total), rolled⟩
      | @dice die drawn survivors yields faces =>
          -- The group uses up its own numbers and leaves the script of the later groups.
          refine ⟨drawn ++ script, fun rest desk same quiet => ?_⟩
          rw [List.append_assoc] at same
          have answers := same ▸ Generator.answers_replay faces (script ++ rest)
          obtain ⟨middle, rolled, left⟩ := yields.exists_rollGroup answers
            fun _ _ kept => absurd (kept.symm.trans quiet) (by decide)
          obtain ⟨_, _, drew⟩ := yields_of_rollGroup rolled
          have stillQuiet : middle.journal.keeps .warning = false := by
            rw [Journal.keeps, drew.threshold]
            exact quiet
          obtain ⟨finish, added, ended⟩ := later rest middle left stillQuiet
          refine ⟨finish, ?_, ended⟩
          rw [List.foldlM_cons, Play.on_bind_eq_ok_iff]
          exact ⟨_, middle, Play.on_bind_eq_ok_iff.mpr ⟨_, middle, rolled, rfl⟩, added⟩

theorem Bag.canTotal_iff_canReach {bag : Bag} (formed : ∀ group ∈ bag.groups, group.WellFormed)
    {total : Int} : bag.CanTotal limit total ↔ CanReach limit 0 bag.groups total := by
  constructor
  · intro given
    obtain ⟨State, generator, desk, finish, fair, rolled⟩ := given
    exact canReach_of_foldlM fair formed rolled
  · intro reach
    obtain ⟨script, brings⟩ := reach.exists_script
    let desk : Desk (List Int) := { source := script, journal := { threshold := .critical } }
    obtain ⟨finish, rolled, _⟩ := brings [] desk (List.append_nil _).symm rfl
    exact ⟨List Int, Generator.replay, desk, finish, Generator.fair_replay, rolled⟩

/-! ## What a group can be worth -/

theorem totalOf_inside {low high : Int} {values : List Int}
    (inside : ∀ value ∈ values, low ≤ value ∧ value ≤ high) :
    low * values.length ≤ totalOf values ∧ totalOf values ≤ high * values.length := by
  induction values with
  | nil => simp [totalOf]
  | cons value values ih =>
      have own := inside value List.mem_cons_self
      have rest := ih fun other member => inside other (List.mem_cons_of_mem _ member)
      have unfolded : totalOf (value :: values) = value + totalOf values := rfl
      rw [unfolded, List.length_cons, Int.natCast_succ, Int.mul_add, Int.mul_add, Int.mul_one,
        Int.mul_one]
      omega

theorem totalOf_replicate (number : Nat) (value : Int) :
    totalOf (List.replicate number value) = value * number := by
  have equal : ∀ other ∈ List.replicate number value, value ≤ other ∧ other ≤ value := by
    intro other member
    rw [List.eq_of_mem_replicate member]
    exact ⟨Int.le_refl _, Int.le_refl _⟩
  have same := totalOf_inside equal
  rw [List.length_replicate] at same
  omega

theorem Die.keptCount_nonneg (die : Die) : 0 ≤ die.keptCount := by
  rw [keptCount]
  cases die.drop <;> simp only [Drop.kept] <;> omega

namespace Group

variable {group : Group}

/-- A group without exploding dice. -/
def Plain : Group → Prop
  | .bonus _ => True
  | .dice die => die.explosive = false

/-- The structural interval of a group holds all that the group can be worth. -/
theorem CanYield.inside (formed : group.WellFormed) (plain : group.Plain) {worth : Int}
    (yields : group.CanYield limit worth) :
    (Span.ofGroup group).low ≤ worth ∧ worth ≤ (Span.ofGroup group).high := by
  cases yields with
  | bonus => exact ⟨Int.le_refl _, Int.le_refl _⟩
  | @dice die drawn survivors yields faces =>
      have bounds := totalOf_inside (yields.inside formed.cutoff faces)
      rw [(yields.length_survivors formed.drop).2 plain] at bounds
      exact bounds

/-- Both ends of the structural interval of a group come up. -/
theorem canYield_ends (formed : group.WellFormed) (plain : group.Plain) (limit : Int) :
    group.CanYield limit (Span.ofGroup group).low ∧
      group.CanYield limit (Span.ofGroup group).high := by
  cases group with
  | bonus flat => exact ⟨.bonus, .bonus⟩
  | dice die =>
      have positive : 1 ≤ die.size := formed.size
      have reached : ∀ face, 1 ≤ face → face ≤ die.size →
          CanYield limit (.dice die) (die.cutoff.clamp face * die.keptCount) := by
        intro face atLeast atMost
        obtain ⟨number, yields⟩ := Die.Yields.exists_replicate formed plain limit face
        have worth := CanYield.dice yields fun value member => by
          rw [List.eq_of_mem_replicate member]
          exact ⟨atLeast, atMost⟩
        rwa [totalOf_replicate, Int.toNat_of_nonneg die.keptCount_nonneg] at worth
      have low := reached 1 (Int.le_refl _) positive
      have high := reached die.size positive (Int.le_refl _)
      rw [Cutoff.clamp_one formed.cutoff] at low
      rw [Cutoff.clamp_size formed.cutoff] at high
      exact ⟨low, high⟩

end Group
end DiceNotation
