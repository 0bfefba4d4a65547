import DiceNotation.Proofs.Outcome

/-!
# Results and rejections

An operation on an expression is settled when it has a result or rejects the expression for a stated cause. A
sequence of steps is left unsettled by its first step without a result, and only if that step does not reject.
-/

set_option autoImplicit false

namespace DiceNotation

variable {Value Result : Type}

/-- A result, or a rejection with a message that can be written, and no other failure. -/
def Settled (outcome : Except Failure Value) : Prop :=
  ∀ failure, outcome = .error failure →
    ∃ error, failure = .rejected error ∧ ∀ piece ∈ error.message, piece.fits = true

@[simp] theorem settled_ok (value : Value) : Settled (.ok value) :=
  fun _ failed => by cases failed

theorem settled_pure (value : Value) : Settled (pure value) :=
  settled_ok value

theorem settled_error_iff {failure : Failure} :
    Settled (.error failure : Except Failure Value) ↔
      ∃ error, failure = .rejected error ∧ ∀ piece ∈ error.message, piece.fits = true := by
  simp [Settled]

theorem settled_bind_iff {outcome : Except Failure Value} {next : Value → Except Failure Result} :
    Settled (outcome >>= next) ↔ Settled outcome ∧ ∀ value, outcome = .ok value → Settled (next value) := by
  cases outcome with
  | ok value => simp [ok_bind]
  | error failure =>
      change Settled (.error failure) ↔ _
      simp [settled_error_iff]

/-- A rejection is one exactly when its message can be written. -/
theorem settled_reject_iff {error : NotationError} :
    Settled (reject error : Except Failure Value) ↔ ∀ piece ∈ error.message, piece.fits = true := by
  unfold reject Phrase.write?
  rw [← List.all_eq_true]
  split <;> simp_all [settled_error_iff]

theorem settled_reject_of_fits {error : NotationError} (fits : error.message.all Piece.fits = true) :
    Settled (reject error : Except Failure Value) :=
  settled_reject_iff.mpr (List.all_eq_true.mp fits)

theorem settled_read_iff {run : Text} : Settled (Numeral.read run) ↔ run.length ≤ Numeral.digitLimit := by
  unfold Numeral.read Numeral.read?
  by_cases short : run.length ≤ Numeral.digitLimit
  · simp [short]
  · simp [short, settled_error_iff]

/-! ## Sequences -/

/-- A value at which a sequence stops, after values that it passes. -/
inductive Reaches (passes stops : Value → Prop) : List Value → Prop where
  | here {value : Value} {rest : List Value} : stops value → Reaches passes stops (value :: rest)
  | later {value : Value} {rest : List Value} :
      passes value → Reaches passes stops rest → Reaches passes stops (value :: rest)

theorem reaches_cons_iff {passes stops : Value → Prop} {value : Value} {rest : List Value} :
    Reaches passes stops (value :: rest) ↔ stops value ∨ passes value ∧ Reaches passes stops rest := by
  constructor
  · intro reached
    cases reached with
    | here stopped => exact .inl stopped
    | later passed reached => exact .inr ⟨passed, reached⟩
  · intro given
    obtain stopped | ⟨passed, reached⟩ := given
    · exact .here stopped
    · exact .later passed reached

theorem Reaches.exists_mem {passes stops : Value → Prop} {values : List Value}
    (reached : Reaches passes stops values) : ∃ value ∈ values, stops value := by
  induction reached with
  | here stopped => exact ⟨_, List.mem_cons_self, stopped⟩
  | later _ _ ih =>
      obtain ⟨value, member, stopped⟩ := ih
      exact ⟨value, List.mem_cons_of_mem _ member, stopped⟩

theorem Reaches.along {Other : Type} {passes stops : Value → Prop} {others ends : Other → Prop}
    {relates : Value → Other → Prop} {values : List Value} {images : List Other}
    (related : List.Forall₂ relates values images)
    (samePasses : ∀ value image, relates value image → (passes value ↔ others image))
    (sameStops : ∀ value image, relates value image → (stops value ↔ ends image)) :
    Reaches passes stops values ↔ Reaches others ends images := by
  induction related with
  | nil => exact ⟨fun reached => (by cases reached), fun reached => (by cases reached)⟩
  | cons pair _ ih => rw [reaches_cons_iff, reaches_cons_iff, samePasses _ _ pair, sameStops _ _ pair, ih]

theorem Reaches.congr {passes stops others ends : Value → Prop} {values : List Value}
    (samePasses : ∀ value ∈ values, passes value ↔ others value)
    (sameStops : ∀ value ∈ values, stops value ↔ ends value) :
    Reaches passes stops values ↔ Reaches others ends values := by
  have related : List.Forall₂ (fun value image => value ∈ values ∧ value = image) values values :=
    List.forall₂_same.mpr fun _ member => ⟨member, rfl⟩
  refine Reaches.along related (fun value image same => ?_) fun value image same => ?_
  · obtain ⟨member, rfl⟩ := same
    exact samePasses value member
  · obtain ⟨member, rfl⟩ := same
    exact sameStops value member

/-- A sequence of steps fails as its first step without a result does. -/
theorem mapM_eq_error_iff {step : Value → Except Failure Result} {values : List Value} {failure : Failure} :
    values.mapM step = .error failure ↔
      Reaches (fun value => ∃ result, step value = .ok result) (fun value => step value = .error failure)
        values := by
  induction values with
  | nil =>
      refine iff_of_false pure_ne_error fun reached => ?_
      cases reached
  | cons value values ih =>
      simp only [List.mapM_cons, bind_eq_error_iff, pure_ne_error, and_false, exists_false, or_false, ih,
        reaches_cons_iff, exists_and_right]

/-- Two passes fail in the first one wherever that can be, and only then as a value does by itself. -/
theorem mapM_bind_mapM_eq_error_iff {Middle : Type} {first : Value → Except Failure Middle}
    {second : Middle → Except Failure Result} {values : List Value} {failure : Failure} :
    (values.mapM first >>= fun middles => middles.mapM second) = .error failure ↔
      Reaches (fun value => ∃ middle, first value = .ok middle) (fun value => first value = .error failure) values ∨
        (∀ value ∈ values, ∃ middle, first value = .ok middle) ∧
          Reaches (fun value => ∃ result, (first value >>= second) = .ok result)
            (fun value => (first value >>= second) = .error failure) values := by
  rw [bind_eq_error_iff, mapM_eq_error_iff, ← exists_mapM_eq_ok_iff, ← exists_and_right]
  refine or_congr Iff.rfl (exists_congr fun middles => and_congr_right fun read => ?_)
  have alike : ∀ value middle, first value = .ok middle → (first value >>= second) = second middle := by
    intro value middle made
    rw [made, ok_bind]
  rw [mapM_eq_error_iff]
  refine (Reaches.along (mapM_eq_ok_iff.mp read) (fun value middle made => ?_) fun value middle made => ?_).symm
  · rw [alike value middle made]
  · rw [alike value middle made]

theorem settled_mapM_iff {step : Value → Except Failure Result} {values : List Value} :
    Settled (values.mapM step) ↔
      ¬ Reaches (fun value => ∃ result, step value = .ok result) (fun value => ¬ Settled (step value)) values := by
  induction values with
  | nil =>
      simp only [List.mapM_nil, settled_pure, true_iff]
      intro reached
      cases reached
  | cons value values ih =>
      simp only [List.mapM_cons, settled_bind_iff, settled_pure, implies_true, and_true, ih, reaches_cons_iff,
        not_or, not_not, not_and, forall_exists_index]

theorem settled_foldlM {step : Result → Value → Except Failure Result} {values : List Value} {memory : Result}
    (settled : ∀ before value, value ∈ values → Settled (step before value)) :
    Settled (values.foldlM step memory) := by
  induction values generalizing memory with
  | nil => exact settled_pure memory
  | cons value values ih =>
      rw [List.foldlM_cons, settled_bind_iff]
      exact ⟨settled memory value List.mem_cons_self, fun after _ =>
        ih fun before other member => settled before other (List.mem_cons_of_mem _ member)⟩

end DiceNotation
