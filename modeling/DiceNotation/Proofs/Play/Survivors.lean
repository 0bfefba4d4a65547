import DiceNotation.Die.WellFormed
import DiceNotation.Play.Rolling
import DiceNotation.Proofs.Die.Building

/-!
# Survivors

The values of a group that count: each is a clamped roll, and clauses that fit leave as many of them as the group
says.
-/

set_option autoImplicit false

namespace DiceNotation

/-! ## Clamped values -/

namespace Cutoff

variable {cutoff : Cutoff} {size : Int}

theorem Fits.bounds_inside (fits : cutoff.Fits size) :
    1 ≤ (cutoff.bounds size).1 ∧ (cutoff.bounds size).2 ≤ size := by
  cases cutoff with
  | none => exact ⟨Int.le_refl _, Int.le_refl _⟩
  | minimum least => exact ⟨Int.le_of_lt fits.1, Int.le_refl _⟩
  | maximum greatest => exact ⟨Int.le_refl _, Int.le_of_lt fits.2⟩
  | between least greatest => exact ⟨Int.le_of_lt fits.1, Int.le_of_lt fits.2.2⟩

theorem clamp_mem_bounds (fits : cutoff.Fits size) {value : Int} (atLeast : 1 ≤ value)
    (atMost : value ≤ size) :
    (cutoff.bounds size).1 ≤ cutoff.clamp value ∧ cutoff.clamp value ≤ (cutoff.bounds size).2 := by
  cases cutoff with
  | none => exact ⟨atLeast, atMost⟩
  | minimum least =>
      obtain ⟨_, most⟩ := fits
      simp only [bounds, clamp]
      omega
  | maximum greatest =>
      obtain ⟨least, _⟩ := fits
      simp only [bounds, clamp]
      omega
  | between least greatest =>
      obtain ⟨_, ordered, _⟩ := fits
      simp only [bounds, clamp]
      split <;> [skip; split] <;> omega

/-- The lowest face becomes the lower bound. -/
theorem clamp_one (fits : cutoff.Fits size) : cutoff.clamp 1 = (cutoff.bounds size).1 := by
  cases cutoff with
  | none => rfl
  | minimum least =>
      obtain ⟨above, _⟩ := fits
      simp only [bounds, clamp]
      omega
  | maximum greatest =>
      obtain ⟨least, _⟩ := fits
      simp only [bounds, clamp]
      omega
  | between least greatest =>
      obtain ⟨above, ordered, _⟩ := fits
      simp only [bounds, clamp]
      rw [if_neg (by omega), if_pos above]

/-- The highest face becomes the upper bound. -/
theorem clamp_size (fits : cutoff.Fits size) : cutoff.clamp size = (cutoff.bounds size).2 := by
  cases cutoff with
  | none => rfl
  | minimum least =>
      obtain ⟨_, most⟩ := fits
      simp only [bounds, clamp]
      omega
  | maximum greatest =>
      obtain ⟨_, below⟩ := fits
      simp only [bounds, clamp]
      omega
  | between least greatest =>
      obtain ⟨_, _, below⟩ := fits
      simp only [bounds, clamp]
      rw [if_pos below]

end Cutoff

/-! ## Kept values -/

variable {values survivors : List Int}

theorem ascending_perm (values : List Int) : (ascending values).Perm values :=
  List.mergeSort_perm ..

theorem descending_perm (values : List Int) : (descending values).Perm values :=
  List.mergeSort_perm ..

theorem entryAt_eq_ok_iff {entries : Array Int} {position value : Int} :
    entryAt entries position = .ok value ↔ entryAt? entries position = some value := by
  unfold entryAt
  cases entryAt? entries position <;> simp

theorem mem_of_entryAt {entries : Array Int} {position value : Int}
    (found : entryAt entries position = .ok value) : value ∈ entries := by
  simp only [entryAt_eq_ok_iff, entryAt?, Option.ite_none_left_eq_some] at found
  exact Array.mem_of_getElem? found.2

/-- A list has its positions and, counted from its end, as many negative ones. -/
theorem exists_entryAt_iff {entries : Array Int} {position : Int} :
    (∃ value, entryAt entries position = .ok value) ↔
      -(entries.size : Int) ≤ position ∧ position < entries.size := by
  have present : ∀ index : Nat, entries[index]?.isSome = true ↔ index < entries.size := by simp
  simp only [entryAt_eq_ok_iff, entryAt?, Option.ite_none_left_eq_some, exists_and_left,
    ← Option.isSome_iff_exists, present]
  split <;> omega

namespace Die

variable {die : Die}

theorem mem_of_keepRolls (kept : keepRolls values die = .ok survivors) :
    ∀ value ∈ survivors, value ∈ values := by
  unfold keepRolls at kept
  intro value member
  cases shape : die.drop with
  | none =>
      simp only [shape, Except.ok.injEq] at kept
      rwa [kept]
  | lowest number =>
      simp only [shape, Except.ok.injEq] at kept
      rw [← kept] at member
      exact (descending_perm values).mem_iff.mp (List.mem_of_mem_take member)
  | highest number =>
      simp only [shape, Except.ok.injEq] at kept
      rw [← kept] at member
      exact (ascending_perm values).mem_iff.mp (List.mem_of_mem_take member)
  | keeping positions =>
      simp only [shape, mapM_eq_ok_iff] at kept
      obtain ⟨index, inside, rfl⟩ := List.getElem_of_mem member
      have found := kept.get (by rw [kept.length_eq]; exact inside) inside
      exact (ascending_perm values).mem_iff.mp (List.mem_toArray.mp (mem_of_entryAt found))

/-- Only a kept position that the values do not have makes a drop fail. -/
theorem exists_keepRolls_iff :
    (∃ survivors, keepRolls values die = .ok survivors) ↔
      ∀ positions, die.drop = .keeping positions →
        ∀ position ∈ positions, -(values.length : Int) ≤ position ∧ position < values.length := by
  unfold keepRolls
  cases die.drop with
  | none => simp
  | lowest number => simp
  | highest number => simp
  | keeping positions =>
      simp only [exists_mapM_eq_ok_iff, exists_entryAt_iff, List.size_toArray,
        (ascending_perm values).length_eq, Drop.keeping.injEq, forall_eq']

theorem exists_keepRolls (fits : die.drop.Fits die.count) (enough : die.count ≤ values.length) :
    ∃ survivors, keepRolls values die = .ok survivors := by
  refine exists_keepRolls_iff.mpr fun positions shape position member => ?_
  rw [shape] at fits
  obtain ⟨lowest, highest, below, rfl⟩ := fits
  -- The kept positions count dice, and there is a value for each die.
  obtain ⟨atLeast, less⟩ := mem_positionsFrom.mp member
  omega

/-- At least as many values stay as the group says, and of the values beyond one for each die at most all. -/
theorem length_of_keepRolls (fits : die.drop.Fits die.count) (enough : die.count ≤ values.length)
    (kept : keepRolls values die = .ok survivors) :
    die.keptCount ≤ survivors.length ∧
      (survivors.length : Int) ≤ die.keptCount + (values.length - die.count) := by
  unfold keepRolls at kept
  rw [Die.keptCount]
  cases shape : die.drop with
  | none =>
      simp only [shape, Except.ok.injEq] at kept
      subst kept
      simp only [Drop.kept]
      omega
  | lowest number =>
      rw [shape] at fits
      simp only [shape, Except.ok.injEq] at kept
      obtain ⟨nonneg, below⟩ := fits
      rw [← kept, List.length_take, (descending_perm values).length_eq]
      simp only [Drop.kept]
      omega
  | highest number =>
      rw [shape] at fits
      simp only [shape, Except.ok.injEq] at kept
      obtain ⟨nonneg, below⟩ := fits
      rw [← kept, List.length_take, (ascending_perm values).length_eq]
      simp only [Drop.kept]
      omega
  | keeping positions =>
      simp only [shape, mapM_eq_ok_iff] at kept
      rw [Drop.kept, kept.length_eq]
      omega

end Die
end DiceNotation
