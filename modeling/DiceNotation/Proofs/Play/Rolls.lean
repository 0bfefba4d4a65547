import DiceNotation.Play.Rolling
import DiceNotation.Proofs.Play.Steps

/-!
# What draws lead to

Which values of a group count depends on the numbers that are drawn and on nothing else. The relation between the
two is stated by itself; rolling a group succeeds exactly along it.
-/

set_option autoImplicit false

namespace DiceNotation

/-! ## The relation -/

/-- The rolls of an exploding die that may go on for so many extra rolls: highest faces up to another face, or
up to the last extra roll. -/
inductive Chain (size : Int) : Nat → List Int → Prop where
  | stops {extra : Nat} {value : Int} : value ≠ size → Chain size extra [value]
  | capped : Chain size 0 [size]
  | goes {extra : Nat} {rolls : List Int} : Chain size extra rolls → Chain size (extra + 1) (size :: rolls)

theorem Chain.ne_nil {size : Int} {extra : Nat} {rolls : List Int} (chain : Chain size extra rolls) : rolls ≠ [] := by
  cases chain <;> exact List.cons_ne_nil _ _

namespace Die

/-- The rolls of all dice of a group before any clause applies. -/
inductive Rolls (die : Die) (limit : Int) : List Int → Prop where
  | plain {rolls : List Int} : die.explosive = false → rolls.length = die.count → Rolls die limit rolls
  | exploding {chains : List (List Int)} : die.explosive = true → chains.length = die.count →
      (∀ chain ∈ chains, Chain die.size limit.toNat chain) → Rolls die limit chains.flatten

/-- One pass over some values with so many rerolls left: the fresh rolls it takes, and the values after it. -/
inductive Rerolls (die : Die) : (values : List Int) → (left : Nat) → (fresh passed : List Int) → Prop where
  | done {left : Nat} : Rerolls die [] left [] []
  | spent {values : List Int} : Rerolls die values 0 [] values
  | again {value new : Int} {values fresh passed : List Int} {left : Nat} :
      die.reroll.qualifies value = true → Rerolls die values left fresh passed →
      Rerolls die (value :: values) (left + 1) (new :: fresh) (new :: passed)
  | stays {value : Int} {values fresh passed : List Int} {left : Nat} :
      die.reroll.qualifies value = false → Rerolls die values (left + 1) fresh passed →
      Rerolls die (value :: values) (left + 1) fresh (value :: passed)

/-- Which values of a group count when the given numbers are drawn for it. -/
inductive Yields (die : Die) (limit : Int) : (drawn survivors : List Int) → Prop where
  | rolled {rolls fresh passed survivors : List Int} :
      die.Rolls limit rolls → die.Rerolls rolls die.reroll.count.toNat fresh passed →
      keepRolls (clampAll passed die) die = .ok survivors →
      Yields die limit (rolls ++ fresh) survivors

end Die

/-- The remark on a chain that stops for want of extra rolls. -/
def cappedRemark (size limit : Int) : Phrase :=
  [.say "Explosion chain on a d", .number size, .say " stopped after ", .number limit,
    .say " extra rolls."]

variable {State : Type} {generator : Generator State} {desk finish : Desk State} {source : State}
  {size limit : Int}

theorem Journal.Takes.congr {journal other : Journal} {level : Level} {remark : Phrase}
    (takes : journal.Takes level remark) (same : other.threshold = journal.threshold) :
    other.Takes level remark := by
  intro kept
  rw [keeps, same] at kept
  exact takes kept

/-! ## Rolling goes along the relation -/

theorem chain_of_chainFrom {extra : Nat} {before values : List Int}
    (rolled : (chainFrom generator size limit extra before).on desk = (.ok values, finish)) :
    ∃ rolls, Chain size extra rolls ∧ before.reverse ++ rolls = values ∧
      desk.Drew generator 1 size rolls finish := by
  -- The rolls before stay free, because every extra roll puts one more in front of them.
  induction extra generalizing desk before with
  | zero =>
      simp only [chainFrom, Play.on_bind_eq_ok_iff] at rolled
      obtain ⟨value, middle, drawn, rolled⟩ := rolled
      have drew := Desk.Drew.ofDraw drawn
      split at rolled
      · next highest =>
          subst highest
          obtain ⟨_, after, noted, ended⟩ := Play.on_bind_eq_ok_iff.mp rolled
          obtain ⟨rfl, rfl⟩ := Play.on_pure_eq_ok_iff.mp ended
          exact ⟨[value], .capped, List.reverse_cons.symm, drew.trans (.ofNote noted)⟩
      · next lower =>
          obtain ⟨rfl, rfl⟩ := Play.on_pure_eq_ok_iff.mp rolled
          exact ⟨[value], .stops lower, List.reverse_cons.symm, drew⟩
  | succ extra ih =>
      simp only [chainFrom, Play.on_bind_eq_ok_iff] at rolled
      obtain ⟨value, middle, drawn, rolled⟩ := rolled
      have drew := Desk.Drew.ofDraw drawn
      split at rolled
      · next highest =>
          subst highest
          obtain ⟨rolls, chain, rfl, later⟩ := ih rolled
          exact ⟨value :: rolls, .goes chain, by simp, drew.trans later⟩
      · next lower =>
          obtain ⟨rfl, rfl⟩ := Play.on_pure_eq_ok_iff.mp rolled
          exact ⟨[value], .stops lower, List.reverse_cons.symm, drew⟩

theorem chain_of_explode {values : List Int}
    (rolled : (explode generator size limit).on desk = (.ok values, finish)) :
    Chain size limit.toNat values ∧ desk.Drew generator 1 size values finish := by
  obtain ⟨rolls, chain, rfl, drew⟩ := chain_of_chainFrom rolled
  exact ⟨chain, drew⟩

private theorem chains_of_repeats {chains : List (List Int)}
    (repeats : (explode generator size limit).Repeats desk chains finish) :
    (∀ chain ∈ chains, Chain size limit.toNat chain) ∧
      desk.Drew generator 1 size chains.flatten finish := by
  induction repeats with
  | nil => exact ⟨by simp, .refl _⟩
  | cons rolled _ ih =>
      obtain ⟨chain, drew⟩ := chain_of_explode rolled
      obtain ⟨others, later⟩ := ih
      refine ⟨?_, drew.trans later⟩
      intro other member
      rcases List.mem_cons.mp member with rfl | member
      · exact chain
      · exact others other member

theorem rolls_of_rollDice {die : Die} {rolls : List Int}
    (rolled : (rollDice generator die limit).on desk = (.ok rolls, finish)) :
    die.Rolls limit rolls ∧ desk.Drew generator 1 die.size rolls finish := by
  unfold rollDice at rolled
  split at rolled
  · next explosive =>
      obtain ⟨chains, middle, repeated, ended⟩ := Play.on_bind_eq_ok_iff.mp rolled
      obtain ⟨rfl, rfl⟩ := Play.on_pure_eq_ok_iff.mp ended
      obtain ⟨size, repeats⟩ := Play.on_times_eq_ok_iff.mp repeated
      obtain ⟨chained, drew⟩ := chains_of_repeats repeats
      exact ⟨.exploding explosive size chained, drew⟩
  · next plain =>
      obtain ⟨size, repeats⟩ := Play.on_times_eq_ok_iff.mp rolled
      exact ⟨.plain (Bool.not_eq_true _ ▸ plain) size, .ofRepeats repeats⟩

theorem rerolls_of_rollAgainFrom {die : Die} {values before result : List Int} {left : Nat}
    (rolled : (rollAgainFrom generator die values left before).on desk = (.ok result, finish)) :
    ∃ fresh passed, die.Rerolls values left fresh passed ∧ before.reverse ++ passed = result ∧
      desk.Drew generator 1 die.size fresh finish := by
  induction values generalizing desk left before with
  | nil =>
      rw [rollAgainFrom, Play.on_pure_eq_ok_iff] at rolled
      obtain ⟨rfl, rfl⟩ := rolled
      exact ⟨[], [], .done, List.append_nil _, .refl _⟩
  | cons value values ih =>
      cases left with
      | zero =>
          rw [rollAgainFrom, Play.on_pure_eq_ok_iff] at rolled
          · obtain ⟨rfl, rfl⟩ := rolled
            exact ⟨[], value :: values, .spent, rfl, .refl _⟩
          · simp
      | succ left =>
          rw [rollAgainFrom] at rolled
          split at rolled
          · next qualifies =>
              obtain ⟨new, middle, drawn, rolled⟩ := Play.on_bind_eq_ok_iff.mp rolled
              obtain ⟨fresh, passed, rerolls, rfl, drew⟩ := ih rolled
              exact ⟨new :: fresh, new :: passed, .again qualifies rerolls, by simp,
                (Desk.Drew.ofDraw drawn).trans drew⟩
          · next fails =>
              obtain ⟨fresh, passed, rerolls, rfl, drew⟩ := ih rolled
              exact ⟨fresh, value :: passed, .stays (Bool.not_eq_true _ ▸ fails) rerolls, by simp, drew⟩

/-- The values of a group that count are those that the numbers drawn for it lead to. -/
theorem yields_of_rollGroup {die : Die} {survivors : List Int}
    (rolled : (rollGroup generator die limit).on desk = (.ok survivors, finish)) :
    ∃ drawn, die.Yields limit drawn survivors ∧ desk.Drew generator 1 die.size drawn finish := by
  simp only [rollGroup, Play.on_bind_eq_ok_iff, Play.on_lift_eq_ok_iff] at rolled
  obtain ⟨rolls, middle, rawRolled, passed, after, again, kept, rfl⟩ := rolled
  obtain ⟨raw, drew⟩ := rolls_of_rollDice rawRolled
  obtain ⟨fresh, passed, rerolls, rfl, later⟩ := rerolls_of_rollAgainFrom again
  exact ⟨rolls ++ fresh, .rolled raw rerolls kept, drew.trans later⟩

/-! ## Remarks on stopped chains -/

/-- The last roll of a chain that was stopped for want of extra rolls shows the highest face as well. -/
abbrev Stopped (size : Int) (rolls : List Int) : Prop :=
  rolls.getLast? = some size

theorem stopped_cons_iff {rolls : List Int} {value : Int} (nonempty : rolls ≠ []) :
    Stopped size (value :: rolls) ↔ Stopped size rolls := by
  cases rolls with
  | nil => exact absurd rfl nonempty
  | cons => rw [Stopped, List.getLast?_cons_cons]

/-- What a die does after the last roll of its chain. -/
def noteStopped (size limit : Int) (rolls : List Int) : Play State Unit :=
  if Stopped size rolls then Play.note .warning .rolling (cappedRemark size limit) else pure ()

namespace Journal

variable {journal other : Journal} {chains : List (List Int)}

/-- The remarks on those chains that were stopped, as far as they are kept. -/
def onStopped (journal : Journal) (size limit : Int) (chains : List (List Int)) : List Remark :=
  if journal.keeps .warning then
    List.replicate (chains.countP fun rolls => Stopped size rolls)
      { level := .warning, origin := .rolling, text := (cappedRemark size limit).text }
  else []

theorem onStopped_append (journal : Journal) (size limit : Int) (first second : List (List Int)) :
    journal.onStopped size limit (first ++ second) =
      journal.onStopped size limit first ++ journal.onStopped size limit second := by
  unfold onStopped
  split
  · rw [List.countP_append, List.replicate_append_replicate]
  · rfl

theorem onStopped_congr (same : other.threshold = journal.threshold) :
    other.onStopped size limit chains = journal.onStopped size limit chains := by
  rw [onStopped, onStopped, keeps, keeps, same]

/-- Each remark on one of these chains can be made. -/
def TakesStopped (journal : Journal) (size limit : Int) (chains : List (List Int)) : Prop :=
  ∀ rolls ∈ chains, Stopped size rolls → journal.Takes .warning (cappedRemark size limit)

theorem TakesStopped.congr (takes : journal.TakesStopped size limit chains)
    (same : other.threshold = journal.threshold) : other.TakesStopped size limit chains :=
  fun rolls member stopped => (takes rolls member stopped).congr same

end Journal

theorem exists_on_noteStopped {rolls : List Int} (takes : desk.journal.TakesStopped size limit [rolls]) :
    ∃ finish, (noteStopped size limit rolls).on desk = (.ok (), finish) ∧ finish.source = desk.source ∧
      finish.journal.remarks = desk.journal.remarks ++ desk.journal.onStopped size limit [rolls] := by
  by_cases stopped : Stopped size rolls
  · obtain ⟨finish, noted⟩ : ∃ finish,
        (Play.note .warning .rolling (cappedRemark size limit)).on desk = (.ok (), finish) :=
      Play.exists_on_note_eq_ok_iff.mpr (takes rolls List.mem_cons_self stopped)
    have source : finish.source = desk.source := by
      obtain ⟨reversed, rfl⟩ := Play.exists_of_on_note noted
      rfl
    rw [noteStopped, if_pos stopped]
    refine ⟨finish, noted, source, ?_⟩
    rw [Play.remarks_of_on_note noted, Journal.onStopped, List.countP_singleton, if_pos (decide_eq_true stopped)]
    rfl
  · rw [noteStopped, if_neg stopped]
    refine ⟨desk, rfl, rfl, ?_⟩
    simp [Journal.onStopped, stopped]

/-! ## The relation leads to rolls -/

/-- A chain is drawn number by number. The remark on it is all that is left to do then. -/
theorem Chain.on_chainFrom {extra : Nat} {rolls : List Int} {middle : Desk State} (chain : Chain size extra rolls)
    (drawn : (Play.draw generator 1 size).Repeats desk rolls middle) (before : List Int) :
    (chainFrom generator size limit extra before).on desk =
      (noteStopped size limit rolls >>= fun _ => pure (before.reverse ++ rolls)).on middle := by
  induction chain generalizing desk before with
  | @stops extra value lower =>
      cases drawn with
      | cons drew rest =>
          cases rest
          have running : ¬ Stopped size [value] := fun stopped => lower (Option.some.inj stopped)
          rw [noteStopped, if_neg running, pure_bind, ← List.reverse_cons]
          cases extra <;> rw [chainFrom, Play.on_bind, drew] <;> simp only [if_neg lower]
  | capped =>
      cases drawn with
      | cons drew rest =>
          cases rest
          have stopped : Stopped size [size] := rfl
          rw [noteStopped, if_pos stopped, chainFrom, Play.on_bind, drew, ← List.reverse_cons]
          simp only [if_pos]
          rfl
  | @goes extra rolls chain ih =>
      cases drawn with
      | cons drew rest =>
          rw [chainFrom, Play.on_bind, drew]
          simp only [if_pos, noteStopped, stopped_cons_iff chain.ne_nil] at ih ⊢
          rw [ih rest (size :: before), List.reverse_cons, List.append_assoc]
          rfl

theorem Chain.exists_chainFrom {extra : Nat} {rolls : List Int} (chain : Chain size extra rolls)
    (answers : generator.Answers 1 size desk.source rolls source)
    (takes : desk.journal.TakesStopped size limit [rolls]) (before : List Int) :
    ∃ finish, (chainFrom generator size limit extra before).on desk =
      (.ok (before.reverse ++ rolls), finish) ∧ finish.source = source ∧
        finish.journal.remarks = desk.journal.remarks ++ desk.journal.onStopped size limit [rolls] := by
  obtain ⟨middle, drawn, rfl⟩ := answers.exists_repeats
  rw [← Play.journal_of_repeats_draw drawn] at takes ⊢
  obtain ⟨finish, noted, same, remarks⟩ := exists_on_noteStopped takes
  refine ⟨finish, ?_, same, remarks⟩
  rw [chain.on_chainFrom drawn, Play.on_bind, noted]
  rfl

theorem exists_repeats_of_chains {chains : List (List Int)}
    (chained : ∀ chain ∈ chains, Chain size limit.toNat chain)
    (answers : generator.Answers 1 size desk.source chains.flatten source)
    (takes : desk.journal.TakesStopped size limit chains) :
    ∃ finish, (explode generator size limit).Repeats desk chains finish ∧ finish.source = source ∧
      finish.journal.remarks = desk.journal.remarks ++ desk.journal.onStopped size limit chains := by
  induction chains generalizing desk with
  | nil =>
      cases answers
      exact ⟨desk, .nil, rfl, by simp [Journal.onStopped]⟩
  | cons chain chains ih =>
      obtain ⟨own, others⟩ := List.forall_mem_cons.mp chained
      obtain ⟨next, first, later⟩ := Generator.answers_append_iff.mp answers
      have here : desk.journal.TakesStopped size limit [chain] :=
        List.forall_mem_singleton.mpr (takes chain List.mem_cons_self)
      obtain ⟨middle, rolled, rfl, remarks⟩ := own.exists_chainFrom first here []
      have same := (chain_of_explode rolled).2.threshold
      have there : middle.journal.TakesStopped size limit chains :=
        Journal.TakesStopped.congr (fun other member => takes other (List.mem_cons_of_mem _ member)) same
      obtain ⟨finish, repeats, source, more⟩ := ih others later there
      refine ⟨finish, .cons rolled repeats, source, ?_⟩
      rw [more, remarks, Journal.onStopped_congr same, List.append_assoc, ← Journal.onStopped_append]
      rfl

theorem Die.Rolls.exists_rollDice {die : Die} {rolls : List Int} (raw : die.Rolls limit rolls)
    (answers : generator.Answers 1 die.size desk.source rolls source)
    (takes : die.explosive = true → die.count ≠ 0 →
      desk.journal.Takes .warning (cappedRemark die.size limit)) :
    ∃ finish, (rollDice generator die limit).on desk = (.ok rolls, finish) ∧
      finish.source = source := by
  unfold rollDice
  cases raw with
  | plain plain size =>
      obtain ⟨finish, repeats, same⟩ := answers.exists_repeats
      rw [if_neg (by simp [plain])]
      exact ⟨finish, Play.on_times_eq_ok_iff.mpr ⟨size, repeats⟩, same⟩
  | exploding explosive size chained =>
      obtain ⟨finish, repeats, same, _⟩ := exists_repeats_of_chains chained answers fun rolls member _ =>
        takes explosive (size ▸ Nat.ne_of_gt (List.length_pos_of_mem member))
      rw [if_pos explosive]
      exact ⟨finish, Play.on_bind_eq_ok_iff.mpr
        ⟨_, finish, Play.on_times_eq_ok_iff.mpr ⟨size, repeats⟩, rfl⟩, same⟩

theorem Die.Rerolls.exists_rollAgainFrom {die : Die} {values fresh passed : List Int} {left : Nat}
    (rerolls : die.Rerolls values left fresh passed)
    (answers : generator.Answers 1 die.size desk.source fresh source) (before : List Int) :
    ∃ finish, (rollAgainFrom generator die values left before).on desk =
      (.ok (before.reverse ++ passed), finish) ∧ finish.source = source := by
  induction rerolls generalizing desk before with
  | done =>
      cases answers
      exact ⟨desk, by rw [rollAgainFrom, List.append_nil]; rfl, rfl⟩
  | @spent values =>
      cases answers
      refine ⟨desk, ?_, rfl⟩
      cases values with
      | nil => rw [rollAgainFrom, List.append_nil]; rfl
      | cons value values => rw [rollAgainFrom] <;> first | rfl | simp
  | @again value new values fresh passed left qualifies _ ih =>
      cases answers with
      | @cons _ next _ _ _ answer rest =>
          let drew : Desk State := { desk with source := next, draws := desk.draws.add 1 die.size }
          obtain ⟨finish, rolled, same⟩ := @ih drew rest (new :: before)
          refine ⟨finish, ?_, same⟩
          rw [rollAgainFrom, if_pos qualifies, Play.on_bind_eq_ok_iff]
          refine ⟨new, _, Play.on_draw_of_answer answer, ?_⟩
          rw [rolled, List.reverse_cons, List.append_assoc]
          rfl
  | @stays value values fresh passed left fails _ ih =>
      obtain ⟨finish, rolled, same⟩ := ih answers (value :: before)
      refine ⟨finish, ?_, same⟩
      rw [rollAgainFrom, if_neg (by simp [fails]), rolled, List.reverse_cons, List.append_assoc]
      rfl

/-- A generator that answers with the drawn numbers leads to the values that they lead to, unless a chain stops
that cannot be remarked on. -/
theorem Die.Yields.exists_rollGroup {die : Die} {drawn survivors : List Int}
    (yields : die.Yields limit drawn survivors)
    (answers : generator.Answers 1 die.size desk.source drawn source)
    (takes : die.explosive = true → die.count ≠ 0 →
      desk.journal.Takes .warning (cappedRemark die.size limit)) :
    ∃ finish, (rollGroup generator die limit).on desk = (.ok survivors, finish) ∧
      finish.source = source := by
  cases yields with
  | rolled raw rerolls kept =>
      obtain ⟨_, first, second⟩ := Generator.answers_append_iff.mp answers
      obtain ⟨middle, rolled, rfl⟩ := raw.exists_rollDice first takes
      obtain ⟨finish, again, same⟩ := rerolls.exists_rollAgainFrom second []
      refine ⟨finish, ?_, same⟩
      simp only [rollGroup, Play.on_bind_eq_ok_iff, Play.on_lift_eq_ok_iff]
      exact ⟨_, middle, rolled, _, finish, again, kept, rfl⟩

end DiceNotation
