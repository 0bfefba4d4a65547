import DiceNotation.Proofs.Play.Totals

/-!
# Explosion chains

The rolls of an exploding die are the shortest beginning of the drawn numbers that ends in another face than the
highest one or leaves no extra roll. The dice of a group draw from one source, and each chain begins where the chain
before it ended. Every stopped chain is remarked on, so a remark that cannot be made is all that can fail.
-/

set_option autoImplicit false

namespace DiceNotation

variable {State : Type} {generator : Generator State} {size limit : Int} {desk : Desk State}

/-! ## The shortest beginning of the draws -/

/-- Some rolls after which a die is not rolled again: the last one shows another face than the highest, or there are
as many as there may be. -/
def EndsChain (size : Int) (most : Nat) (rolls : List Int) : Prop :=
  ∃ last, rolls.getLast? = some last ∧ (last ≠ size ∨ rolls.length = most)

namespace Generator

/-- The shortest beginning of the answers from `state` after which a die is not rolled again, and the state after
it. -/
structure FirstChain (generator : Generator State) (size limit : Int) (state : State) (rolls : List Int)
    (next : State) : Prop where
  answers : generator.Answers 1 size state rolls next
  ends : EndsChain size (limit.toNat + 1) rolls
  shortest : ∀ others last, generator.Answers 1 size state others last →
    EndsChain size (limit.toNat + 1) others → rolls <+: others

/-- Chains from `state` on, each from the state after the one before it, and the state after them all. -/
inductive Chains (generator : Generator State) (size limit : Int) : State → List (List Int) → State → Prop where
  | nil {state : State} : Chains generator size limit state [] state
  | cons {state next last : State} {rolls : List Int} {chains : List (List Int)} :
      generator.FirstChain size limit state rolls next → Chains generator size limit next chains last →
      Chains generator size limit state (rolls :: chains) last

variable {state next last : State} {value : Int} {rolls others : List Int} {most : Nat}

theorem Answers.exists_cons_of_endsChain (answers : generator.Answers 1 size state (value :: rolls) next)
    (given : generator.Answers 1 size state others last) (ends : EndsChain size most others) :
    ∃ middle more, others = value :: more ∧ generator.Answers 1 size middle rolls next ∧
      generator.Answers 1 size middle more last := by
  cases given with
  | nil =>
      obtain ⟨_, ended, _⟩ := ends
      cases ended
  | cons other more =>
      cases answers with
      | cons answer rest =>
          cases answer.symm.trans other
          exact ⟨_, _, rfl, rest, more⟩

end Generator

namespace Chain

variable {extra : Nat} {rolls others : List Int} {state next last source : State}

theorem ends (chain : Chain size extra rolls) : EndsChain size (extra + 1) rolls := by
  induction chain with
  | stops lower => exact ⟨_, rfl, .inl lower⟩
  | capped => exact ⟨_, rfl, .inr rfl⟩
  | goes _ ih =>
      obtain ⟨last, ended, stops⟩ := ih
      refine ⟨last, ?_, stops.imp_right (congrArg (· + 1))⟩
      rw [List.getLast?_cons, ended]
      rfl

theorem highest_before_last (chain : Chain size extra rolls) : ∀ value ∈ rolls.dropLast, value = size := by
  induction chain with
  | stops _ => simp
  | capped => simp
  | goes chain ih =>
      rw [List.dropLast_cons_of_ne_nil chain.ne_nil]
      exact List.forall_mem_cons.mpr ⟨rfl, ih⟩

theorem isPrefix (chain : Chain size extra rolls) (answers : generator.Answers 1 size state rolls next)
    (given : generator.Answers 1 size state others last) (ends : EndsChain size (extra + 1) others) :
    rolls <+: others := by
  induction chain generalizing state others with
  | stops _ =>
      obtain ⟨_, more, rfl, _, _⟩ := answers.exists_cons_of_endsChain given ends
      exact ⟨more, rfl⟩
  | capped =>
      obtain ⟨_, more, rfl, _, _⟩ := answers.exists_cons_of_endsChain given ends
      exact ⟨more, rfl⟩
  | goes _ ih =>
      obtain ⟨_, more, rfl, rest, later⟩ := answers.exists_cons_of_endsChain given ends
      obtain ⟨last, ended, stops⟩ := ends
      -- The highest face alone is no chain while extra rolls are left, so the other rolls go on as well.
      cases more with
      | nil =>
          cases ended
          simp at stops
      | cons second more =>
          rw [List.getLast?_cons_cons] at ended
          exact List.cons_prefix_cons.mpr ⟨rfl, ih rest later ⟨last, ended, stops.imp_right Nat.succ.inj⟩⟩

theorem firstChain (chain : Chain size limit.toNat rolls) (answers : generator.Answers 1 size state rolls next) :
    generator.FirstChain size limit state rolls next :=
  ⟨answers, chain.ends, fun _ _ given ends => chain.isPrefix answers given ends⟩

end Chain

theorem Generator.Answers.chains {state last : State} {chains : List (List Int)}
    (answers : generator.Answers 1 size state chains.flatten last)
    (chained : ∀ rolls ∈ chains, Chain size limit.toNat rolls) : generator.Chains size limit state chains last := by
  induction chains generalizing state with
  | nil =>
      cases answers
      exact .nil
  | cons rolls chains ih =>
      obtain ⟨own, others⟩ := List.forall_mem_cons.mp chained
      obtain ⟨next, first, rest⟩ := Generator.answers_append_iff.mp answers
      exact .cons (own.firstChain first) (ih rest others)

/-! ## Rolling chains -/

/-- The play rolls the chains one after the other: it draws what they consist of, remarks on each that was stopped, and
has all their rolls as its result. It has none when there is a stopped chain that cannot be remarked on. -/
structure Play.RollsChains (play : Play State (List Int)) (generator : Generator State) (size limit : Int)
    (desk : Desk State) (chains : List (List Int)) : Prop where
  rolls : desk.journal.TakesStopped size limit chains →
    ∃ finish, play.on desk = (.ok chains.flatten, finish) ∧ desk.Drew generator 1 size chains.flatten finish ∧
      finish.journal.remarks = desk.journal.remarks ++ desk.journal.onStopped size limit chains
  fails : ¬ desk.journal.TakesStopped size limit chains → (play.on desk).1 = .error .numberTooLong

variable {source : State} {chains : List (List Int)} {rolls : List Int}

theorem Chain.on_explode_of_not_takes (chain : Chain size limit.toNat rolls)
    (answers : generator.Answers 1 size desk.source rolls source)
    (untaken : ¬ desk.journal.TakesStopped size limit [rolls]) :
    ((explode generator size limit).on desk).1 = .error .numberTooLong := by
  rw [Journal.TakesStopped, List.forall_mem_singleton, Classical.not_imp] at untaken
  obtain ⟨stopped, untaken⟩ := untaken
  obtain ⟨middle, drawn, _⟩ := answers.exists_repeats
  rw [← Play.journal_of_repeats_draw drawn] at untaken
  rw [explode, chain.on_chainFrom drawn, noteStopped, if_pos stopped]
  exact Play.on_bind_of_error (congrArg Prod.fst (Play.on_note_of_not_takes untaken)) _

theorem Chain.rollsChains (chain : Chain size limit.toNat rolls)
    (answers : generator.Answers 1 size desk.source rolls source) :
    (explode generator size limit).RollsChains generator size limit desk [rolls] := by
  refine ⟨fun takes => ?_, chain.on_explode_of_not_takes answers⟩
  obtain ⟨finish, rolled, _, remarks⟩ := chain.exists_chainFrom answers takes []
  rw [List.flatten_singleton]
  exact ⟨finish, rolled, (chain_of_explode rolled).2, remarks⟩

/-- Rolling die after die ends without a result at the first stopped chain that cannot be remarked on. -/
theorem on_timesFrom_explode_of_not_takes (chained : ∀ rolls ∈ chains, Chain size limit.toNat rolls)
    (answers : generator.Answers 1 size desk.source chains.flatten source)
    (untaken : ¬ desk.journal.TakesStopped size limit chains) (before : List (List Int)) :
    ((Play.timesFrom (explode generator size limit) chains.length before).on desk).1 = .error .numberTooLong := by
  induction chains generalizing desk before with
  | nil => exact absurd (fun _ member => absurd member List.not_mem_nil) untaken
  | cons rolls chains ih =>
      obtain ⟨own, others⟩ := List.forall_mem_cons.mp chained
      obtain ⟨next, first, later⟩ := Generator.answers_append_iff.mp answers
      by_cases here : desk.journal.TakesStopped size limit [rolls]
      · obtain ⟨middle, rolled, rfl, _⟩ := own.exists_chainFrom first here []
        have same := (chain_of_explode rolled).2.threshold
        have there : ¬ middle.journal.TakesStopped size limit chains := fun there =>
          untaken (List.forall_mem_cons.mpr ⟨here rolls List.mem_cons_self, there.congr same.symm⟩)
        have rolled : (explode generator size limit).on desk = (.ok rolls, middle) := rolled
        rw [List.length_cons, Play.timesFrom, Play.on_bind, rolled]
        exact ih others later there (rolls :: before)
      · exact Play.on_bind_of_error (own.on_explode_of_not_takes first here) _

theorem Die.rollsChains {die : Die} (explosive : die.explosive = true) (same : chains.length = die.count)
    (chained : ∀ rolls ∈ chains, Chain die.size limit.toNat rolls)
    (answers : generator.Answers 1 die.size desk.source chains.flatten source) :
    (rollDice generator die limit).RollsChains generator die.size limit desk chains := by
  constructor
  · intro takes
    obtain ⟨finish, repeats, _, remarks⟩ := exists_repeats_of_chains chained answers takes
    have rolled : (rollDice generator die limit).on desk = (.ok chains.flatten, finish) := by
      rw [rollDice, if_pos explosive, Play.on_bind_eq_ok_iff]
      exact ⟨chains, finish, Play.on_times_eq_ok_iff.mpr ⟨same, repeats⟩, rfl⟩
    exact ⟨finish, rolled, (rolls_of_rollDice rolled).2, remarks⟩
  · intro untaken
    rw [rollDice, if_pos explosive, ← same]
    exact Play.on_bind_of_error (on_timesFrom_explode_of_not_takes chained answers untaken []) _

/-- With a generator that does not fail, an exploding die shows the shortest beginning of the draws after which it is
not rolled again, and the dice of a group do so one after the other. Each stopped chain is remarked on once. -/
theorem explosions_roll_first_chains (unfailing : generator.Unfailing 1 size) (limit : Int) (desk : Desk State) :
    (∃ rolls next, generator.FirstChain size limit desk.source rolls next ∧
        (∀ value ∈ rolls.dropLast, value = size) ∧
        (explode generator size limit).RollsChains generator size limit desk [rolls]) ∧
      ∀ die : Die, die.size = size → die.explosive = true →
        ∃ chains last, generator.Chains size limit desk.source chains last ∧ chains.length = die.count ∧
          die.count ≤ chains.flatten.length ∧ chains.flatten.length ≤ die.count * (limit.toNat + 1) ∧
          (rollDice generator die limit).RollsChains generator size limit desk chains := by
  constructor
  · obtain ⟨rolls, next, chain, answers⟩ := Chain.exists_of_unfailing unfailing limit.toNat desk.source
    exact ⟨rolls, next, chain.firstChain answers, chain.highest_before_last, chain.rollsChains answers⟩
  · rintro die rfl explosive
    obtain ⟨rolls, last, raw, answers⟩ := Die.Rolls.exists_of_unfailing unfailing limit desk.source
    obtain ⟨least, most⟩ := raw.length
    cases raw with
    | plain plain _ =>
        rw [explosive] at plain
        cases plain
    | @exploding chains _ same chained =>
        exact ⟨chains, last, answers.chains chained, same, least, most,
          Die.rollsChains explosive same chained answers⟩

/-- Two dice with one extra roll each. The first chain ends by itself, the second one is stopped. -/
theorem explosions_roll_first_chains_of_two_dice :
    let die : Die := { size := 6, count := 2, explosive := true }
    let desk : Desk (List Int) := { source := [6, 3, 6, 6, 2] }
    let warning : Remark :=
      ⟨.warning, .rolling, Text.of "Explosion chain on a d6 stopped after 1 extra rolls."⟩
    Generator.replay.Unfailing 1 6 ∧
      ∃ chains last finish, Generator.replay.Chains 6 1 [6, 3, 6, 6, 2] chains last ∧ chains.length = 2 ∧
        chains.flatten = [6, 3, 6, 6] ∧ (rollDice .replay die 1).on desk = (.ok [6, 3, 6, 6], finish) ∧
        finish.journal.remarks = desk.journal.onStopped 6 1 chains ∧ finish.journal.remarks = [warning] := by
  intro die desk warning
  have unfailing : Generator.replay.Unfailing 1 6 := (Generator.fair_replay.between (by decide)).unfailing
  obtain ⟨chains, last, first, same, _, _, rolling⟩ := (explosions_roll_first_chains unfailing 1 desk).2 die rfl rfl
  have takes : desk.journal.TakesStopped 6 1 chains := by
    intro _ _ _ _ piece part
    simp only [cappedRemark, List.mem_cons, List.not_mem_nil, or_false] at part
    rcases part with rfl | rfl | rfl | rfl | rfl <;> decide +kernel
  obtain ⟨finish, rolled, _, remarks⟩ := rolling.rolls takes
  have computed : ((rollDice .replay die 1).on desk).1 = .ok [6, 3, 6, 6] := by decide +kernel
  have remarked : ((rollDice .replay die 1).on desk).2.journal.remarks = [warning] := by decide +kernel
  have flat : chains.flatten = [6, 3, 6, 6] := by simpa [rolled] using computed
  rw [flat] at rolled
  rw [rolled] at remarked
  exact ⟨unfailing, chains, last, finish, first, same, flat, rolled, remarks, remarked⟩

/-- A chain that is stopped at a limit of more digits than a number may have to be written has no result. -/
theorem explode_fails_of_unwritable_limit :
    let limit : Int := -(Numeral.powerOfTen Numeral.digitLimit : Int)
    let desk : Desk (List Int) := { source := [] }
    Generator.replay.Unfailing 1 1 ∧ ((explode .replay 1 limit).on desk).1 = .error .numberTooLong :=
  ⟨(Generator.fair_replay.between (by decide)).unfailing, by decide +kernel⟩

end DiceNotation
