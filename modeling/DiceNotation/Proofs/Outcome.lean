import DiceNotation.Failure
import Mathlib.Data.List.Forall2

/-!
# Laws of outcomes

A sequence of steps has a result exactly when each step has one.
-/

set_option autoImplicit false

namespace DiceNotation

variable {Value Result : Type}

theorem ok_bind (value : Value) (next : Value → Except Failure Result) :
    (Except.ok value >>= next) = next value :=
  rfl

theorem pure_eq_ok (value : Value) : (pure value : Except Failure Value) = .ok value :=
  rfl

theorem bind_eq_ok_iff {outcome : Except Failure Value} {next : Value → Except Failure Result}
    {result : Result} :
    (outcome >>= next) = .ok result ↔ ∃ value, outcome = .ok value ∧ next value = .ok result := by
  cases outcome with
  | error failure => simp [bind, Except.bind]
  | ok value => simp [bind, Except.bind]

theorem bind_eq_error_iff {outcome : Except Failure Value} {next : Value → Except Failure Result}
    {failure : Failure} :
    (outcome >>= next) = .error failure ↔
      outcome = .error failure ∨ ∃ value, outcome = .ok value ∧ next value = .error failure := by
  cases outcome with
  | error failure => simp [bind, Except.bind]
  | ok value => simp [bind, Except.bind]

theorem map_eq_ok_iff {change : Value → Result} {outcome : Except Failure Value} {result : Result} :
    change <$> outcome = .ok result ↔ ∃ value, outcome = .ok value ∧ change value = result := by
  cases outcome <;> simp [Functor.map, Except.map]

theorem map_eq_error_iff {change : Value → Result} {outcome : Except Failure Value} {failure : Failure} :
    change <$> outcome = .error failure ↔ outcome = .error failure := by
  cases outcome <;> simp [Functor.map, Except.map]

theorem pure_ne_error {value : Value} {failure : Failure} :
    (pure value : Except Failure Value) ≠ .error failure := by
  simp [pure, Except.pure]

theorem map_reject (change : Value → Result) (error : NotationError) :
    change <$> (reject error : Except Failure Value) = reject error := by
  unfold reject
  cases error.message.write? <;> rfl

theorem reject_bind (error : NotationError) (next : Value → Except Failure Result) :
    (reject error >>= next) = reject error := by
  unfold reject
  cases error.message.write? <;> rfl

theorem reject_eq_rejected_iff {error other : NotationError} :
    (reject error : Except Failure Value) = .error (.rejected other) ↔
      (∀ piece ∈ error.message, piece.fits = true) ∧ error = other := by
  unfold reject Phrase.write?
  rw [← List.all_eq_true]
  cases error.message.all Piece.fits <;> simp

theorem pure_eq_ok_iff {value result : Value} :
    (pure value : Except Failure Value) = .ok result ↔ value = result := by
  simp [pure, Except.pure]

theorem mapM_eq_ok_iff {step : Value → Except Failure Result} {values : List Value}
    {results : List Result} :
    values.mapM step = .ok results ↔
      List.Forall₂ (fun value result => step value = .ok result) values results := by
  induction values generalizing results with
  | nil => cases results <;> simp [pure_eq_ok_iff]
  | cons value values ih =>
      simp only [List.mapM_cons, bind_eq_ok_iff, pure_eq_ok_iff]
      constructor
      · intro given
        obtain ⟨result, made, others, rest, rfl⟩ := given
        exact .cons made (ih.mp rest)
      · intro related
        cases related with
        | cons made rest => exact ⟨_, made, _, ih.mpr rest, rfl⟩

theorem exists_mapM_eq_ok_iff {step : Value → Except Failure Result} {values : List Value} :
    (∃ results, values.mapM step = .ok results) ↔ ∀ value ∈ values, ∃ result, step value = .ok result := by
  simp only [mapM_eq_ok_iff]
  induction values with
  | nil => simp
  | cons value values ih =>
      rw [List.forall_mem_cons, ← ih]
      constructor
      · intro given
        obtain ⟨results, related⟩ := given
        cases related with
        | cons made rest => exact ⟨⟨_, made⟩, _, rest⟩
      · intro given
        obtain ⟨⟨result, made⟩, results, rest⟩ := given
        exact ⟨result :: results, .cons made rest⟩

/-- Two passes over a sequence have the results that each value has on its own. -/
theorem mapM_bind_mapM_eq_ok_iff {Middle : Type} {first : Value → Except Failure Middle}
    {second : Middle → Except Failure Result} {values : List Value} {results : List Result} :
    (values.mapM first >>= fun middles => middles.mapM second) = .ok results ↔
      List.Forall₂ (fun value result => (first value >>= second) = .ok result) values results := by
  simp only [bind_eq_ok_iff, mapM_eq_ok_iff]
  induction values generalizing results with
  | nil =>
      constructor
      · intro given
        obtain ⟨_, reads, makes⟩ := given
        cases reads
        cases makes
        exact .nil
      · intro related
        cases related
        exact ⟨[], .nil, .nil⟩
  | cons value values ih =>
      constructor
      · intro given
        obtain ⟨_, reads, makes⟩ := given
        cases reads with
        | cons read reads =>
            cases makes with
            | cons made makes => exact .cons ⟨_, read, made⟩ (ih.mp ⟨_, reads, makes⟩)
      · intro related
        cases related with
        | cons own others =>
            obtain ⟨middle, read, made⟩ := own
            obtain ⟨middles, reads, rest⟩ := ih.mpr others
            exact ⟨middle :: middles, .cons read reads, .cons made rest⟩

/-- A property of the memory that every step keeps holds at the end of a scan. -/
theorem foldlM_preserves {step : Result → Value → Except Failure Result} {values : List Value}
    {memory final : Result} (Holds : Result → Prop) (start : Holds memory)
    (keeps : ∀ before value after, value ∈ values → Holds before →
      step before value = .ok after → Holds after)
    (scanned : values.foldlM step memory = .ok final) : Holds final := by
  induction values generalizing memory with
  | nil =>
      cases scanned
      exact start
  | cons value values ih =>
      rw [List.foldlM_cons, bind_eq_ok_iff] at scanned
      obtain ⟨after, stepped, rest⟩ := scanned
      have now := keeps memory value after List.mem_cons_self start stepped
      exact ih now (fun before other later member => keeps before other later
        (List.mem_cons_of_mem _ member)) rest

theorem Phrase.write_eq_ok_iff {phrase : Phrase} {text : Text} :
    phrase.write = .ok text ↔ (∀ piece ∈ phrase, piece.fits = true) ∧ phrase.text = text := by
  rw [← write?_eq_some_iff, write]
  cases phrase.write? <;> simp

end DiceNotation
