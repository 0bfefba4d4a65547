import DiceNotation.Proofs.Bag.RoundTrip

/-!
# Bags that are read can be written

The size and the count of a die group come from numerals, and the numbers in its clauses are bounded by them. So every
number in the bag of an expression can be written.
-/

set_option autoImplicit false

namespace DiceNotation

namespace Die

variable {die made : Die}

theorem WellFormed.fits_of_mem_numbers (formed : die.WellFormed) (size : Numeral.fits die.size = true)
    (count : Numeral.fits die.count = true) : ∀ number ∈ die.numbers, Numeral.fits number = true := by
  have bySize : ∀ number : Int, 0 ≤ number → number ≤ die.size → Numeral.fits number = true :=
    fun _ nonneg most => Numeral.fits_of_le nonneg most size
  have byCount : ∀ number : Int, 0 ≤ number → number ≤ die.count → Numeral.fits number = true :=
    fun _ nonneg most => Numeral.fits_of_le nonneg most count
  obtain ⟨positive, drop, reroll, cutoff⟩ := formed
  have drops : ∀ number ∈ die.drop.numbers, Numeral.fits number = true := by
    intro number member
    cases shape : die.drop with
    | none =>
        rw [shape] at member
        cases member
    | lowest dropped | highest dropped =>
        rw [shape] at drop member
        obtain rfl := List.mem_singleton.mp member
        exact byCount number drop.1 (Int.le_of_lt drop.2)
    | keeping positions =>
        rw [shape] at drop member
        obtain ⟨lowest, highest, _, rfl⟩ := drop
        obtain ⟨atLeast, below⟩ := mem_positionsFrom.mp member
        exact byCount number (by omega) (by omega)
  have rerolls : ∀ number ∈ die.reroll.numbers, Numeral.fits number = true := by
    intro number member
    cases shape : die.reroll with
    | never again =>
        rw [shape] at reroll member
        obtain rfl := List.mem_singleton.mp member
        exact byCount number (Int.le_of_eq reroll.symm) (by rw [reroll]; omega)
    | above again threshold | below again threshold =>
        rw [shape] at reroll member
        obtain ⟨nonneg, few, atLeast, atMost⟩ := reroll
        rcases List.mem_pair.mp member with rfl | rfl
        · exact byCount number nonneg few
        · exact bySize number (by omega) (by omega)
  have cutoffs : ∀ number ∈ die.cutoff.numbers, Numeral.fits number = true := by
    intro number member
    cases shape : die.cutoff with
    | none =>
        rw [shape] at member
        cases member
    | minimum bound | maximum bound =>
        rw [shape] at cutoff member
        obtain ⟨atLeast, atMost⟩ := cutoff
        obtain rfl := List.mem_singleton.mp member
        exact bySize number (by omega) (by omega)
    | between least greatest =>
        rw [shape] at cutoff member
        obtain ⟨above, ordered, below⟩ := cutoff
        rcases List.mem_pair.mp member with rfl | rfl
        · exact bySize number (by omega) (by omega)
        · exact bySize number (by omega) (by omega)
  intro number member
  simp only [numbers, List.mem_append, List.mem_cons, List.not_mem_nil, or_false] at member
  rcases member with (((rfl | rfl) | member) | member) | member
  · exact size
  · exact count
  · exact drops number member
  · exact rerolls number member
  · exact cutoffs number member

theorem few_of_keepMiddle {lowest highest : Int} (built : die.keepMiddle lowest highest = .ok made) :
    ∀ positions, made.drop = .keeping positions → positions.length ≤ positionLimit := by
  obtain ⟨_, few, rfl⟩ := keepMiddle_eq_ok_iff.mp built
  rintro _ ⟨⟩
  rwa [length_positionsFrom]

theorem few_of_addClauses {modifiers : List Modifier} (bare : die.drop = .none)
    (built : die.addClauses modifiers = .ok made) :
    ∀ positions, made.drop = .keeping positions → positions.length ≤ positionLimit := by
  simp only [addClauses, bind_eq_ok_iff] at built
  obtain ⟨dropped, dropBuilt, rerolled, rerollBuilt, built⟩ := built
  obtain ⟨_, rfl⟩ := exists_reroll_of_addReroll rerollBuilt
  obtain ⟨_, rfl⟩ := exists_cutoff_of_addCutoff built
  change ∀ positions, dropped.drop = .keeping positions → positions.length ≤ positionLimit
  simp only [addDrop, bind_eq_ok_iff] at dropBuilt
  obtain ⟨scan, _, dropBuilt⟩ := dropBuilt
  split at dropBuilt
  · exact few_of_keepMiddle (dropEnds_eq_ok_iff.mp dropBuilt).2
  · obtain ⟨_, ⟨_, rfl⟩ | ⟨_, _, middle⟩⟩ := dropLowest_eq_ok_iff.mp dropBuilt
    · rintro _ ⟨⟩
    · exact few_of_keepMiddle middle
  · obtain ⟨_, ⟨_, rfl⟩ | ⟨_, _, middle⟩⟩ := dropHighest_eq_ok_iff.mp dropBuilt
    · rintro _ ⟨⟩
    · exact few_of_keepMiddle middle
  · cases dropBuilt
    intro positions keeps
    rw [bare] at keeps
    cases keeps

end Die

theorem Grammar.WritesCount.fits {text : Text} {count : Nat} (written : WritesCount text count) :
    Numeral.fits count = true := by
  cases written with
  | one => decide +kernel
  | numeral valid => exact Numeral.fits_value valid

theorem Group.bounded_of_ofToken {sign : Sign} {text : Text} {body : TokenBody} {group : Group}
    (written : Grammar.WritesGroup text body) (made : ofToken ⟨sign, text, body⟩ = .ok group) : group.Bounded := by
  have formed := wellFormed_of_ofToken written made
  cases written with
  | bonus valid =>
      cases made
      exact Numeral.fits_value valid
  | @dice _ sizeText _ _ count explosive modifiers countWritten sizeValid _ _ _ =>
      simp only [ofToken, bind_eq_ok_iff, pure_eq_ok_iff] at made
      obtain ⟨die, built, rfl⟩ := made
      have few := Die.few_of_addClauses rfl built
      obtain ⟨drop, reroll, cutoff, rfl⟩ := Die.exists_clauses_of_addClauses built
      exact ⟨formed.fits_of_mem_numbers (Numeral.fits_value sizeValid) countWritten.fits, few⟩

theorem Bag.bounded_of_ofText {text : Text} {bag : Bag} (read : ofText text = .ok bag) : bag.Bounded := by
  intro group member
  obtain ⟨token, written, made⟩ := exists_token_of_ofText read group member
  exact Group.bounded_of_ofToken written made

end DiceNotation
