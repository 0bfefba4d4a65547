import DiceNotation.Play.Desk
import DiceNotation.Proofs.Outcome

/-!
# Laws of plays

A sequence of plays succeeds exactly when each of them succeeds on the desk that the one before it leaves. What a
group asks its generator for is always the same request, so the answers and the desk after them are followed
together.
-/

set_option autoImplicit false

namespace DiceNotation

variable {State : Type}

/-! ## Answers -/

/-- The answers to the same request, again and again, and the state that is left. -/
inductive Generator.Answers (generator : Generator State) (low high : Int) :
    State → List Int → State → Prop where
  | nil {state : State} : generator.Answers low high state [] state
  | cons {state next last : State} {value : Int} {values : List Int} :
      generator.draw state low high = (.ok value, next) →
      generator.Answers low high next values last →
      generator.Answers low high state (value :: values) last

namespace Generator

variable {generator : Generator State} {low high : Int} {state next last : State}
  {values later : List Int}

theorem Answers.append (first : generator.Answers low high state values next)
    (second : generator.Answers low high next later last) :
    generator.Answers low high state (values ++ later) last := by
  induction first with
  | nil => exact second
  | cons answer _ ih => exact .cons answer (ih second)

theorem answers_append_iff :
    generator.Answers low high state (values ++ later) last ↔
      ∃ next, generator.Answers low high state values next ∧
        generator.Answers low high next later last := by
  constructor
  · intro answers
    induction values generalizing state with
    | nil => exact ⟨state, .nil, answers⟩
    | cons value values ih =>
        cases answers with
        | cons answer rest =>
            obtain ⟨next, first, second⟩ := ih rest
            exact ⟨next, .cons answer first, second⟩
  · intro given
    obtain ⟨next, first, second⟩ := given
    exact first.append second

/-- A generator that answers every request between these bounds. -/
def Unfailing (generator : Generator State) (low high : Int) : Prop :=
  ∀ state, ∃ value next, generator.draw state low high = (.ok value, next)

/-- A generator that answers every request between these bounds, and answers within them. -/
def FairBetween (generator : Generator State) (low high : Int) : Prop :=
  ∀ state, ∃ value next, generator.draw state low high = (.ok value, next) ∧ low ≤ value ∧ value ≤ high

theorem Fair.between (fair : generator.Fair) (ordered : low ≤ high) : generator.FairBetween low high :=
  fun state => fair state low high ordered

theorem FairBetween.unfailing (fair : generator.FairBetween low high) : generator.Unfailing low high := by
  intro state
  obtain ⟨value, next, answer, _⟩ := fair state
  exact ⟨value, next, answer⟩

theorem Answers.inside (answers : generator.Answers low high state values last)
    (fair : generator.FairBetween low high) :
    ∀ value ∈ values, low ≤ value ∧ value ≤ high := by
  induction answers with
  | nil => simp
  | @cons state _ _ value _ answer _ ih =>
      obtain ⟨own, _, same, bounds⟩ := fair state
      rw [answer] at same
      obtain rfl : value = own := by simpa using congrArg Prod.fst same
      intro other member
      rcases List.mem_cons.mp member with rfl | member
      · exact bounds
      · exact ih other member

end Generator

/-! ## Sequences -/

namespace Play

variable {Value Result : Type} {desk finish : Desk State}

theorem on_pure_eq_ok_iff {value result : Result} :
    (pure value : Play State Result).on desk = (.ok result, finish) ↔
      value = result ∧ desk = finish := by
  change (Except.ok value, desk) = (.ok result, finish) ↔ _
  simp

theorem on_bind (play : Play State Value) (next : Value → Play State Result) (desk : Desk State) :
    (play >>= next).on desk =
      match play.on desk with
      | (.ok value, middle) => (next value).on middle
      | (.error failure, middle) => (.error failure, middle) := by
  change (match play.on desk with
    | (outcome, middle) => (ExceptT.bindCont next outcome).run middle) = _
  rcases play.on desk with ⟨_ | value, middle⟩ <;> rfl

theorem on_bind_eq_ok_iff {play : Play State Value} {next : Value → Play State Result}
    {result : Result} :
    (play >>= next).on desk = (.ok result, finish) ↔
      ∃ value middle, play.on desk = (.ok value, middle) ∧
        (next value).on middle = (.ok result, finish) := by
  rw [on_bind]
  rcases play.on desk with ⟨failure | value, middle⟩
  · simp
  · constructor
    · intro rest
      exact ⟨value, middle, rfl, rest⟩
    · intro given
      obtain ⟨_, _, same, rest⟩ := given
      cases same
      exact rest

theorem on_bind_of_error {play : Play State Value} {failure : Failure} (failed : (play.on desk).1 = .error failure)
    (next : Value → Play State Result) : ((play >>= next).on desk).1 = .error failure := by
  rw [on_bind]
  generalize play.on desk = outcome at failed ⊢
  obtain ⟨own | value, middle⟩ := outcome
  · cases failed
    rfl
  · cases failed

theorem on_tryCatch (play : Play State Result) (handle : Failure → Play State Result) (desk : Desk State) :
    (tryCatch play handle : Play State Result).on desk =
      match play.on desk with
      | (.ok result, middle) => (.ok result, middle)
      | (.error failure, middle) => (handle failure).on middle := by
  simp only [tryCatch, tryCatchThe, MonadExceptOf.tryCatch, ExceptT.tryCatch, on, ExceptT.run, ExceptT.mk,
    StateT.run_bind]
  generalize StateT.run play desk = outcome
  obtain ⟨_ | value, middle⟩ := outcome <;> rfl

theorem on_lift (outcome : Except Failure Result) (desk : Desk State) :
    (lift outcome : Play State Result).on desk = (outcome, desk) :=
  rfl

theorem on_lift_eq_ok_iff {outcome : Except Failure Result} {result : Result} :
    (lift outcome : Play State Result).on desk = (.ok result, finish) ↔
      outcome = .ok result ∧ desk = finish := by
  simp [on_lift]

theorem on_draw_of_answer {generator : Generator State} {low high value : Int} {source : State}
    (answer : generator.draw desk.source low high = (.ok value, source)) :
    (draw generator low high).on desk =
      (.ok value, { desk with source, draws := desk.draws.add low high }) := by
  change draw generator low high desk = _
  unfold draw ExceptT.mk
  simp only [answer]

theorem on_draw_of_failure {generator : Generator State} {low high : Int} {failure : Failure}
    {source : State} (answer : generator.draw desk.source low high = (.error failure, source)) :
    (draw generator low high).on desk = (.error failure, { desk with source }) := by
  change draw generator low high desk = _
  unfold draw ExceptT.mk
  simp only [answer]

theorem on_draw_eq_ok_iff {generator : Generator State} {low high value : Int} :
    (draw generator low high).on desk = (.ok value, finish) ↔
      ∃ source, generator.draw desk.source low high = (.ok value, source) ∧
        { desk with source, draws := desk.draws.add low high } = finish := by
  rcases answer : generator.draw desk.source low high with ⟨failure | own, source⟩
  · rw [on_draw_of_failure answer]
    simp
  · rw [on_draw_of_answer answer]
    constructor
    · intro drawn
      cases drawn
      exact ⟨source, rfl, rfl⟩
    · intro given
      obtain ⟨_, same, rfl⟩ := given
      cases same
      rfl

/-- The results of a play that succeeds again and again, and the desk that is left. -/
inductive Repeats (play : Play State Result) : Desk State → List Result → Desk State → Prop where
  | nil {desk : Desk State} : Repeats play desk [] desk
  | cons {desk middle finish : Desk State} {result : Result} {results : List Result} :
      play.on desk = (.ok result, middle) → Repeats play middle results finish →
      Repeats play desk (result :: results) finish

private theorem on_timesFrom_eq_ok_iff {play : Play State Result} {count : Nat}
    {before results : List Result} :
    (timesFrom play count before).on desk = (.ok results, finish) ↔
      ∃ own, own.length = count ∧ before.reverse ++ own = results ∧
        play.Repeats desk own finish := by
  induction count generalizing desk before with
  | zero =>
      rw [timesFrom, on_pure_eq_ok_iff]
      constructor
      · intro given
        obtain ⟨rfl, rfl⟩ := given
        exact ⟨[], rfl, List.append_nil _, .nil⟩
      · intro given
        obtain ⟨own, empty, rfl, repeats⟩ := given
        obtain rfl := List.length_eq_zero_iff.mp empty
        cases repeats
        exact ⟨(List.append_nil _).symm, rfl⟩
  | succ count ih =>
      simp only [timesFrom, on_bind_eq_ok_iff, ih]
      constructor
      · intro given
        obtain ⟨result, middle, played, own, rfl, rfl, repeats⟩ := given
        exact ⟨result :: own, rfl, by simp, .cons played repeats⟩
      · intro given
        obtain ⟨own, size, rfl, repeats⟩ := given
        cases repeats with
        | nil => cases size
        | @cons _ middle _ result others played repeats =>
            exact ⟨result, middle, played, others, by simpa using size, by simp, repeats⟩

theorem on_times_eq_ok_iff {play : Play State Result} {count : Nat} {results : List Result} :
    (times count play).on desk = (.ok results, finish) ↔
      results.length = count ∧ play.Repeats desk results finish := by
  simp only [times, on_timesFrom_eq_ok_iff, List.reverse_nil, List.nil_append]
  constructor
  · intro given
    obtain ⟨own, size, rfl, repeats⟩ := given
    exact ⟨size, repeats⟩
  · intro given
    obtain ⟨size, repeats⟩ := given
    exact ⟨results, size, rfl, repeats⟩

end Play

/-- A remark that the journal leaves out or that can be written. -/
def Journal.Takes (journal : Journal) (level : Level) (remark : Phrase) : Prop :=
  journal.keeps level = true → ∀ piece ∈ remark, piece.fits = true

namespace Play

variable {desk finish : Desk State} {level : Level} {origin : Origin} {remark : Phrase}

theorem on_note : (note level origin remark).on desk =
    if desk.journal.keeps level then
      match remark.write with
      | .ok text => (.ok (), { desk with journal := desk.journal.add { level, origin, text } })
      | .error failure => (.error failure, desk)
    else (.ok (), desk) :=
  rfl

theorem exists_on_note_eq_ok_iff :
    (∃ finish, (note level origin remark).on desk = (.ok (), finish)) ↔
      desk.journal.Takes level remark := by
  rw [Journal.Takes]
  by_cases kept : desk.journal.keeps level = true
  · simp only [on_note, if_pos kept]
    cases written : remark.write with
    | ok text =>
        have fits := (Phrase.write_eq_ok_iff.mp written).1
        exact ⟨fun _ _ => fits, fun _ => ⟨_, rfl⟩⟩
    | error failure =>
        simp only [Prod.mk.injEq, reduceCtorEq, false_and, exists_false, false_iff]
        intro fits
        have short := Phrase.write_eq_ok_iff.mpr ⟨fits kept, rfl⟩
        rw [written] at short
        cases short
  · simp only [on_note, if_neg kept]
    exact ⟨fun _ taken => absurd taken kept, fun _ => ⟨desk, rfl⟩⟩

/-- A remark that is kept and cannot be written changes nothing. -/
theorem on_note_of_not_takes (untaken : ¬ desk.journal.Takes level remark) :
    (note level origin remark).on desk = (.error .numberTooLong, desk) := by
  obtain ⟨kept, unwritten⟩ := Classical.not_imp.mp untaken
  have unwritable : remark.write? = none := by
    rw [Phrase.write?, if_neg (by simpa using unwritten)]
  rw [on_note, if_pos kept, Phrase.write, unwritable]

/-- A remark changes nothing on the desk but the list of remarks. -/
theorem exists_of_on_note (noted : (note level origin remark).on desk = (.ok (), finish)) :
    ∃ reversed, { desk with journal := { desk.journal with reversed } } = finish := by
  rw [on_note] at noted
  split at noted
  · split at noted
    · cases noted
      exact ⟨_, rfl⟩
    · cases noted
  · cases noted
    exact ⟨_, rfl⟩

/-- The remark itself comes after the earlier ones, if it is kept. -/
theorem remarks_of_on_note (noted : (note level origin remark).on desk = (.ok (), finish)) :
    finish.journal.remarks = desk.journal.remarks ++
      if desk.journal.keeps level then [{ level, origin, text := remark.text }] else [] := by
  rw [on_note] at noted
  split at noted
  · next kept =>
      cases written : remark.write with
      | ok text =>
          rw [written] at noted
          cases noted
          rw [if_pos kept, (Phrase.write_eq_ok_iff.mp written).2]
          exact List.reverse_cons
      | error failure =>
          rw [written] at noted
          cases noted
  · next left =>
      cases noted
      rw [if_neg left, List.append_nil]

/-! ## Events on a desk -/

variable {console : Console} {event : Console.Event}

theorem on_present : (present console event).on desk =
    if console.takes event then (.ok (), { desk with shown := event :: desk.shown })
    else (.error .unshowable, desk) :=
  rfl

theorem on_present_eq_ok_iff {value : Unit} :
    (present console event).on desk = (.ok value, finish) ↔
      console.takes event = true ∧ { desk with shown := event :: desk.shown } = finish := by
  rw [on_present]
  split
  · next taken => simp [taken]
  · next refused => simp [refused]

/-- A refused event changes nothing. -/
theorem on_present_of_refused (refused : console.takes event = false) :
    (present console event).on desk = (.error .unshowable, desk) := by
  rw [on_present, refused]
  rfl

end Play

/-! ## Draws on a desk -/

/-- What happens to a desk while numbers between the same bounds are drawn. Remarks may be made, but no remark
changes which remarks are kept. -/
structure Desk.Drew (generator : Generator State) (low high : Int) (desk : Desk State)
    (values : List Int) (finish : Desk State) : Prop where
  answers : generator.Answers low high desk.source values finish.source
  draws : finish.draws.toList = desk.draws.toList ++ List.replicate values.length (low, high)
  threshold : finish.journal.threshold = desk.journal.threshold

namespace Desk.Drew

variable {generator : Generator State} {low high : Int} {desk middle finish : Desk State}
  {values later : List Int}

theorem refl (desk : Desk State) : desk.Drew generator low high [] desk :=
  ⟨.nil, (List.append_nil _).symm, rfl⟩

theorem trans (first : desk.Drew generator low high values middle)
    (second : middle.Drew generator low high later finish) :
    desk.Drew generator low high (values ++ later) finish := by
  refine ⟨first.answers.append second.answers, ?_, second.threshold.trans first.threshold⟩
  rw [second.draws, first.draws, List.append_assoc, List.length_append, List.replicate_append_replicate]

theorem ofDraw {value : Int} (drawn : (Play.draw generator low high).on desk = (.ok value, finish)) :
    desk.Drew generator low high [value] finish := by
  obtain ⟨source, answer, rfl⟩ := Play.on_draw_eq_ok_iff.mp drawn
  exact ⟨.cons answer .nil, Draws.toList_add .., rfl⟩

theorem ofNote {level : Level} {origin : Origin} {remark : Phrase}
    (noted : (Play.note level origin remark).on desk = (.ok (), finish)) :
    desk.Drew generator low high [] finish := by
  obtain ⟨reversed, rfl⟩ := Play.exists_of_on_note noted
  exact ⟨.nil, (List.append_nil _).symm, rfl⟩

theorem ofRepeats (repeats : (Play.draw generator low high).Repeats desk values finish) :
    desk.Drew generator low high values finish := by
  induction repeats with
  | nil => exact .refl _
  | cons drawn _ ih => exact (ofDraw drawn).trans ih

end Desk.Drew

theorem Play.journal_of_repeats_draw {generator : Generator State} {low high : Int} {desk finish : Desk State}
    {values : List Int} (repeats : (draw generator low high).Repeats desk values finish) :
    finish.journal = desk.journal := by
  induction repeats with
  | nil => rfl
  | cons drawn _ ih =>
      obtain ⟨_, _, rfl⟩ := on_draw_eq_ok_iff.mp drawn
      exact ih

theorem Generator.Answers.exists_repeats {generator : Generator State} {low high : Int}
    {desk : Desk State} {values : List Int} {source : State}
    (answers : generator.Answers low high desk.source values source) :
    ∃ finish, (Play.draw generator low high).Repeats desk values finish ∧
      finish.source = source := by
  induction values generalizing desk with
  | nil =>
      cases answers
      exact ⟨desk, .nil, rfl⟩
  | cons value values ih =>
      cases answers with
      | @cons _ next _ _ _ answer rest =>
          let drew : Desk State := { desk with source := next, draws := desk.draws.add low high }
          obtain ⟨finish, repeats, same⟩ := @ih drew rest
          exact ⟨finish, .cons (Play.on_draw_of_answer answer) repeats, same⟩

end DiceNotation
