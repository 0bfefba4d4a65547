import DiceNotation.Proofs.Die.Modifying
import DiceNotation.Proofs.Notation.Numerals
import DiceNotation.Proofs.Settled

/-!
# Outsized drops

The modifiers of a group either make a group or are rejected, with one exception: dice dropped on both sides, when
the sum of both numbers is too long for the message that rejects it or when too many positions stay.
-/

set_option autoImplicit false

namespace DiceNotation

/-! ## Dropping on both sides -/

namespace Modifier

/-- How many of the lowest rolls of `count` dice go for a modifier that is accepted. -/
def DropsLowest (count : Int) (modifier : Modifier) (number : Int) : Prop :=
  match modifier.kind with
  | .dropLowest => modifier.value < count ∧ modifier.value = number
  | .keepHighest => (0 < modifier.value ∧ modifier.value < count) ∧ count - modifier.value = number
  | _ => False

/-- How many of the highest rolls of `count` dice go for a modifier that is accepted. -/
def DropsHighest (count : Int) (modifier : Modifier) (number : Int) : Prop :=
  match modifier.kind with
  | .dropHighest => modifier.value < count ∧ modifier.value = number
  | .keepLowest => (0 < modifier.value ∧ modifier.value < count) ∧ count - modifier.value = number
  | _ => False

theorem DropsLowest.below {count number : Int} {modifier : Modifier} (drops : modifier.DropsLowest count number) :
    number < count := by
  unfold DropsLowest at drops
  split at drops
  · omega
  · omega
  · exact drops.elim

theorem DropsHighest.below {count number : Int} {modifier : Modifier} (drops : modifier.DropsHighest count number) :
    number < count := by
  unfold DropsHighest at drops
  split at drops
  · omega
  · omega
  · exact drops.elim

/-- One modifier drops the lowest rolls and one the highest rolls, in either order, and no other one drops any. -/
def DropEnds (count : Int) (modifiers : List Modifier) (lowest highest : Int) : Prop :=
  ∃ first second, ofFamily .drop modifiers = [first, second] ∧
    (first.DropsLowest count lowest ∧ second.DropsHighest count highest ∨
      first.DropsHighest count highest ∧ second.DropsLowest count lowest)

/-- The message about the sum is too long, or more positions stay than a list can have. -/
def OutsizedEnds (count lowest highest : Int) : Prop :=
  count ≤ lowest + highest ∧ Numeral.fits (lowest + highest) = false ∨
    (positionLimit : Int) < count - highest - lowest

def DropsOutsized (count : Int) (modifiers : List Modifier) : Prop :=
  ∃ lowest highest, DropEnds count modifiers lowest highest ∧ OutsizedEnds count lowest highest

/-- A number that can be written, as the numbers of an expression are. -/
structure Readable (modifier : Modifier) : Prop where
  nonneg : 0 ≤ modifier.value
  fits : Numeral.fits modifier.value = true

end Modifier

namespace Die

variable {die : Die}

namespace DropScan

variable {scan after : DropScan} {modifier : Modifier}

theorem add_eq_ok_iff (own : modifier.kind.family = .drop) :
    scan.add die modifier = .ok after ↔
      (scan.lowest = none ∧ ∃ number, modifier.DropsLowest die.count number ∧
          { scan with lowest := some number } = after) ∨
        scan.highest = none ∧ ∃ number, modifier.DropsHighest die.count number ∧
          { scan with highest := some number } = after := by
  obtain ⟨kind, value⟩ := modifier
  cases kind with
  | dropLowest | keepHighest | dropHighest | keepLowest =>
      simp only [add, Modifier.DropsLowest, Modifier.DropsHighest, setLowest_eq_ok_iff, setHighest_eq_ok_iff,
        droppedByNumber_eq_ok_iff, droppedByKeeping_eq_ok_iff, false_and, exists_false, and_false, or_false,
        false_or]
  | rerollCount | rerollAbove | rerollBelow | cutoffMaximum | cutoffMinimum => cases own

/-- How many sides were noted so far. -/
def sides (scan : DropScan) : Nat :=
  scan.lowest.toList.length + scan.highest.toList.length

theorem sides_of_foldlM {modifiers : List Modifier}
    (own : ∀ modifier ∈ modifiers, modifier.kind.family = .drop)
    (scanned : modifiers.foldlM (DropScan.add die) scan = .ok after) :
    after.sides = scan.sides + modifiers.length := by
  induction modifiers generalizing scan with
  | nil =>
      cases scanned
      rfl
  | cons modifier rest ih =>
      rw [List.foldlM_cons, bind_eq_ok_iff] at scanned
      obtain ⟨middle, added, scanned⟩ := scanned
      have total := ih (fun other member => own other (List.mem_cons_of_mem modifier member)) scanned
      have one : middle.sides = scan.sides + 1 := by
        obtain ⟨free, number, _, rfl⟩ | ⟨free, number, _, rfl⟩ :=
          (add_eq_ok_iff (own modifier List.mem_cons_self)).mp added <;>
          simp [sides, free, Nat.add_comm]
      rw [List.length_cons]
      omega

/-- A scan that notes both sides has come across one modifier for each of them. -/
theorem foldlM_add_eq_ok_iff_dropEnds {modifiers : List Modifier} {lowest highest : Int} :
    modifiers.foldlM (DropScan.add die) {} = .ok ⟨some lowest, some highest⟩ ↔
      Modifier.DropEnds die.count modifiers lowest highest := by
  rw [← foldlM_add_ofFamily]
  have own : ∀ modifier ∈ Modifier.ofFamily .drop modifiers, modifier.kind.family = .drop := by
    simp [Modifier.ofFamily]
  unfold Modifier.DropEnds
  generalize Modifier.ofFamily .drop modifiers = drops at own
  constructor
  · intro scanned
    have two : 2 = 0 + drops.length := sides_of_foldlM own scanned
    obtain ⟨first, second, rfl⟩ := List.length_eq_two.mp (by omega : drops.length = 2)
    simp only [List.foldlM_cons, List.foldlM_nil, bind_eq_ok_iff, pure_eq_ok_iff] at scanned
    obtain ⟨one, firstAdded, both, secondAdded, rfl⟩ := scanned
    have firstNoted := (add_eq_ok_iff (own first (by simp))).mp firstAdded
    have secondNoted := (add_eq_ok_iff (own second (by simp))).mp secondAdded
    refine ⟨first, second, rfl, ?_⟩
    obtain ⟨_, number, drops, rfl⟩ | ⟨_, number, drops, rfl⟩ := firstNoted
    · obtain ⟨twice, _⟩ | ⟨_, other, others, same⟩ := secondNoted
      · cases twice
      · cases same
        exact .inl ⟨drops, others⟩
    · obtain ⟨_, other, others, same⟩ | ⟨twice, _⟩ := secondNoted
      · cases same
        exact .inr ⟨drops, others⟩
      · cases twice
  · intro given
    obtain ⟨first, second, rfl, either⟩ := given
    simp only [List.foldlM_cons, List.foldlM_nil, bind_eq_ok_iff, pure_eq_ok_iff,
      add_eq_ok_iff (own first (by simp)), add_eq_ok_iff (own second (by simp))]
    obtain ⟨drops, others⟩ | ⟨drops, others⟩ := either
    · exact ⟨_, .inl ⟨trivial, lowest, drops, rfl⟩, _, .inr ⟨rfl, highest, others, rfl⟩, rfl⟩
    · exact ⟨_, .inr ⟨trivial, highest, drops, rfl⟩, _, .inl ⟨rfl, lowest, others, rfl⟩, rfl⟩

end DropScan

/-! ## Checks -/

variable {size count : Int}

private theorem settled_ite_reject {condition : Prop} [Decidable condition] {error : NotationError}
    (fits : error.message.all Piece.fits = true) :
    Settled (if condition then reject error else .ok () : Except Failure Unit) := by
  split
  · exact settled_reject_of_fits fits
  · exact settled_ok ()

private theorem settled_ite_ok {condition : Prop} [Decidable condition] {error : NotationError}
    (fits : error.message.all Piece.fits = true) :
    Settled (if condition then .ok () else reject error : Except Failure Unit) := by
  split
  · exact settled_ok ()
  · exact settled_reject_of_fits fits

theorem settled_checkDrop_iff {dropped : Int} (countFits : Numeral.fits count = true) :
    Settled (checkDrop dropped count) ↔ (count ≤ dropped → Numeral.fits dropped = true) := by
  unfold checkDrop
  split
  · next many => simp [settled_reject_iff, NotationError.message, Piece.fits, many, countFits]
  · next few => simp [few]

theorem settled_checkRerollAbove {threshold : Int} (fits : Numeral.fits threshold = true)
    (sizeFits : Numeral.fits size = true) : Settled (checkRerollAbove threshold size) :=
  settled_ite_ok (by simp [NotationError.message, Piece.fits, fits, sizeFits])

theorem settled_checkRerollBelow {threshold : Int} (fits : Numeral.fits threshold = true)
    (sizeFits : Numeral.fits size = true) : Settled (checkRerollBelow threshold size) :=
  settled_ite_ok (by simp [NotationError.message, Piece.fits, fits, sizeFits])

theorem settled_checkRerollCount {rerolls : Int} (fits : Numeral.fits rerolls = true)
    (countFits : Numeral.fits count = true) : Settled (checkRerollCount rerolls count) :=
  settled_ite_reject (by simp [NotationError.message, Piece.fits, fits, countFits])

theorem settled_checkMaximum {maximum : Int} (fits : Numeral.fits maximum = true)
    (sizeFits : Numeral.fits size = true) : Settled (checkMaximum maximum size) :=
  settled_ite_ok (by simp [NotationError.message, Piece.fits, fits, sizeFits])

theorem settled_checkMinimum {minimum : Int} (fits : Numeral.fits minimum = true)
    (sizeFits : Numeral.fits size = true) : Settled (checkMinimum minimum size) :=
  settled_ite_ok (by simp [NotationError.message, Piece.fits, fits, sizeFits])

/-! ## Drops -/

theorem settled_keptPositions_iff {lowest highest : Int} {dice : Nat} :
    Settled (keptPositions lowest highest dice) ↔ ¬ (positionLimit : Int) < dice - highest - lowest := by
  unfold keptPositions
  split
  · next many =>
      rw [settled_error_iff]
      exact iff_of_false (by simp) (by omega)
  · next few => exact iff_of_true (settled_ok _) (by omega)

theorem settled_keepMiddle_iff {lowest highest : Int} (countFits : Numeral.fits die.count = true) :
    Settled (die.keepMiddle lowest highest) ↔ ¬ Modifier.OutsizedEnds die.count lowest highest := by
  simp only [keepMiddle, settled_bind_iff, settled_checkDrop_iff countFits, checkDrop_eq_ok_iff,
    settled_keptPositions_iff, settled_pure, implies_true, and_true, forall_const, Modifier.OutsizedEnds,
    not_or, not_and, Bool.not_eq_false]
  refine and_congr_right fun _ => ⟨fun few many => few ?_ many, fun few _ => few⟩
  omega

theorem settled_dropLowest {number : Int} (whole : die.drop = .none) (below : number < die.count) :
    Settled (die.dropLowest number) := by
  have checked : checkDrop number die.count = .ok () := checkDrop_eq_ok_iff.mpr below
  rw [dropLowest, whole, checked]
  exact settled_pure _

theorem settled_dropHighest {number : Int} (whole : die.drop = .none) (below : number < die.count) :
    Settled (die.dropHighest number) := by
  have checked : checkDrop number die.count = .ok () := checkDrop_eq_ok_iff.mpr below
  rw [dropHighest, whole, checked]
  exact settled_pure _

namespace DropScan

variable {scan after : DropScan} {modifier : Modifier} {dropped : Except Failure Int}

/-- What was noted so far leaves a die on either side. -/
structure Below (count : Int) (scan : DropScan) : Prop where
  lowest : ∀ number ∈ scan.lowest, number < count
  highest : ∀ number ∈ scan.highest, number < count

theorem Below.add (noted : scan.Below die.count) (stepped : scan.add die modifier = .ok after) :
    after.Below die.count := by
  by_cases own : modifier.kind.family = .drop
  · obtain ⟨_, number, drops, rfl⟩ | ⟨_, number, drops, rfl⟩ := (add_eq_ok_iff own).mp stepped
    · exact ⟨by simpa using drops.below, noted.highest⟩
    · exact ⟨noted.lowest, by simpa using drops.below⟩
  · rw [add_of_family_ne scan modifier own] at stepped
    cases stepped
    exact noted

theorem settled_setLowest (settled : Settled dropped) : Settled (scan.setLowest dropped) := by
  unfold setLowest
  split
  · exact settled_reject_of_fits rfl
  · exact settled_bind_iff.mpr ⟨settled, fun _ _ => settled_pure _⟩

theorem settled_setHighest (settled : Settled dropped) : Settled (scan.setHighest dropped) := by
  unfold setHighest
  split
  · exact settled_reject_of_fits rfl
  · exact settled_bind_iff.mpr ⟨settled, fun _ _ => settled_pure _⟩

theorem settled_add (readable : modifier.Readable)
    (countFits : Numeral.fits die.count = true) : Settled (scan.add die modifier) := by
  have number : Settled (die.droppedByNumber modifier.value) :=
    settled_bind_iff.mpr ⟨(settled_checkDrop_iff countFits).mpr fun _ => readable.fits, fun _ _ => settled_pure _⟩
  have keeping : Settled (die.droppedByKeeping modifier.value) := by
    unfold droppedByKeeping
    split
    · exact settled_reject_of_fits (by simp [NotationError.message, Piece.fits, readable.fits, countFits])
    · next few =>
        have nonneg := readable.nonneg
        have short : Numeral.fits (die.count - modifier.value) = true :=
          Numeral.fits_of_le (by omega) (by omega) countFits
        exact settled_bind_iff.mpr
          ⟨(settled_checkDrop_iff countFits).mpr fun _ => short, fun _ _ => settled_pure _⟩
  unfold add
  split
  · exact settled_setLowest number
  · exact settled_setLowest keeping
  · exact settled_setHighest number
  · exact settled_setHighest keeping
  · exact settled_ok scan

end DropScan

theorem settled_addDrop_iff {modifiers : List Modifier} (whole : die.drop = .none)
    (countFits : Numeral.fits die.count = true) (readable : ∀ modifier ∈ modifiers, modifier.Readable) :
    Settled (die.addDrop modifiers) ↔ ¬ Modifier.DropsOutsized die.count modifiers := by
  have scans : Settled (modifiers.foldlM (DropScan.add die) {}) :=
    settled_foldlM fun _ modifier member => DropScan.settled_add (readable modifier member) countFits
  have ends : ∀ lowest highest, die.dropEnds lowest highest = die.keepMiddle lowest highest := by
    intro lowest highest
    rw [dropEnds, whole]
  simp only [addDrop, settled_bind_iff, scans, true_and]
  constructor
  · intro settled given
    obtain ⟨lowest, highest, dropped, outsized⟩ := given
    have both : Settled (die.dropEnds lowest highest) :=
      settled _ (DropScan.foldlM_add_eq_ok_iff_dropEnds.mpr dropped)
    rw [ends] at both
    exact (settled_keepMiddle_iff countFits).mp both outsized
  · intro sized scan scanned
    -- One side was checked when it was noted, so only the sum of both sides is checked anew.
    have noted : scan.Below die.count := foldlM_preserves (DropScan.Below die.count) ⟨by simp, by simp⟩
      (fun _ _ _ _ held stepped => held.add stepped) scanned
    obtain ⟨lowest, highest⟩ := scan
    cases lowest with
    | none =>
        cases highest with
        | none => exact settled_pure die
        | some highest => exact settled_dropHighest whole (noted.highest highest rfl)
    | some lowest =>
        cases highest with
        | none => exact settled_dropLowest whole (noted.lowest lowest rfl)
        | some highest =>
            have dropped := DropScan.foldlM_add_eq_ok_iff_dropEnds.mp scanned
            have both := (settled_keepMiddle_iff countFits).mpr fun outsized =>
              sized ⟨lowest, highest, dropped, outsized⟩
            rwa [← ends] at both

/-! ## Rerolls -/

def RerollCondition.threshold : RerollCondition → Int
  | above threshold => threshold
  | below threshold => threshold

namespace RerollScan

variable {scan after : RerollScan} {modifier : Modifier}

/-- What was noted so far can be written. -/
structure Fits (scan : RerollScan) : Prop where
  count : ∀ number ∈ scan.count, Numeral.fits number = true
  threshold : ∀ condition ∈ scan.condition, Numeral.fits condition.threshold = true

theorem Fits.add (noted : scan.Fits) (readable : modifier.Readable)
    (stepped : scan.add die modifier = .ok after) : after.Fits := by
  obtain ⟨kind, value⟩ := modifier
  have fits := readable.fits
  cases kind with
  | rerollCount =>
      simp only [RerollScan.add] at stepped
      split at stepped
      · exact absurd stepped reject_ne_ok
      · simp only [bind_eq_ok_iff, pure_eq_ok_iff] at stepped
        obtain ⟨_, _, rfl⟩ := stepped
        exact ⟨by simpa using fits, noted.threshold⟩
  | rerollAbove =>
      obtain ⟨_, _, rfl⟩ := setCondition_eq_ok_iff.mp stepped
      exact ⟨noted.count, by simpa [RerollCondition.threshold] using fits⟩
  | rerollBelow =>
      obtain ⟨_, _, rfl⟩ := setCondition_eq_ok_iff.mp stepped
      exact ⟨noted.count, by simpa [RerollCondition.threshold] using fits⟩
  | dropLowest | keepHighest | dropHighest | keepLowest | cutoffMaximum | cutoffMinimum =>
      cases stepped
      exact noted

theorem settled_setCondition {check : Except Failure Unit} {condition : RerollCondition}
    (settled : Settled check) : Settled (scan.setCondition check condition) := by
  unfold setCondition
  split
  · exact settled_reject_of_fits rfl
  · exact settled_bind_iff.mpr ⟨settled, fun _ _ => settled_pure _⟩

theorem settled_add (readable : modifier.Readable) (sizeFits : Numeral.fits die.size = true)
    (countFits : Numeral.fits die.count = true) : Settled (scan.add die modifier) := by
  unfold add
  split
  · split
    · exact settled_reject_of_fits rfl
    · exact settled_bind_iff.mpr
        ⟨settled_checkRerollCount readable.fits countFits, fun _ _ => settled_pure _⟩
  · exact settled_setCondition (settled_checkRerollAbove readable.fits sizeFits)
  · exact settled_setCondition (settled_checkRerollBelow readable.fits sizeFits)
  · exact settled_ok scan

end RerollScan

theorem settled_addReroll {modifiers : List Modifier} (sizeFits : Numeral.fits die.size = true)
    (countFits : Numeral.fits die.count = true) (readable : ∀ modifier ∈ modifiers, modifier.Readable) :
    Settled (die.addReroll modifiers) := by
  refine settled_bind_iff.mpr ⟨settled_foldlM fun _ modifier member =>
    RerollScan.settled_add (readable modifier member) sizeFits countFits, ?_⟩
  intro scan scanned
  have noted : scan.Fits := foldlM_preserves RerollScan.Fits ⟨by simp, by simp⟩
    (fun _ modifier _ member held stepped => held.add (readable modifier member) stepped) scanned
  split
  · next count threshold countNoted conditionNoted =>
      have above := settled_checkRerollAbove (noted.threshold _ conditionNoted) sizeFits
      have few := settled_checkRerollCount (noted.count count countNoted) countFits
      simp only [rerollAbove, settled_bind_iff, settled_pure, implies_true, and_true]
      exact ⟨above, fun _ _ => few⟩
  · next count threshold countNoted conditionNoted =>
      have below := settled_checkRerollBelow (noted.threshold _ conditionNoted) sizeFits
      have few := settled_checkRerollCount (noted.count count countNoted) countFits
      simp only [rerollBelow, settled_bind_iff, settled_pure, implies_true, and_true]
      exact ⟨below, fun _ _ => few⟩
  · exact settled_pure die
  · exact settled_reject_of_fits rfl

/-! ## Cutoffs -/

namespace CutoffScan

variable {scan after : CutoffScan} {modifier : Modifier}

/-- What was noted so far can be written. -/
structure Fits (scan : CutoffScan) : Prop where
  minimum : ∀ number ∈ scan.minimum, Numeral.fits number = true
  maximum : ∀ number ∈ scan.maximum, Numeral.fits number = true

theorem Fits.add (noted : scan.Fits) (readable : modifier.Readable)
    (stepped : scan.add die modifier = .ok after) : after.Fits := by
  obtain ⟨kind, value⟩ := modifier
  have fits := readable.fits
  cases kind with
  | cutoffMaximum =>
      simp only [CutoffScan.add] at stepped
      split at stepped
      · exact absurd stepped reject_ne_ok
      · simp only [bind_eq_ok_iff, pure_eq_ok_iff] at stepped
        obtain ⟨_, _, rfl⟩ := stepped
        exact ⟨noted.minimum, by simpa using fits⟩
  | cutoffMinimum =>
      simp only [CutoffScan.add] at stepped
      split at stepped
      · exact absurd stepped reject_ne_ok
      · simp only [bind_eq_ok_iff, pure_eq_ok_iff] at stepped
        obtain ⟨_, _, rfl⟩ := stepped
        exact ⟨by simpa using fits, noted.maximum⟩
  | dropLowest | keepHighest | dropHighest | keepLowest | rerollCount | rerollAbove | rerollBelow =>
      cases stepped
      exact noted

theorem settled_add (readable : modifier.Readable) (sizeFits : Numeral.fits die.size = true) :
    Settled (scan.add die modifier) := by
  unfold add
  split
  · split
    · exact settled_reject_of_fits rfl
    · exact settled_bind_iff.mpr ⟨settled_checkMaximum readable.fits sizeFits, fun _ _ => settled_pure _⟩
  · split
    · exact settled_reject_of_fits rfl
    · exact settled_bind_iff.mpr ⟨settled_checkMinimum readable.fits sizeFits, fun _ _ => settled_pure _⟩
  · exact settled_ok scan

end CutoffScan

theorem settled_addCutoff {modifiers : List Modifier} (sizeFits : Numeral.fits die.size = true)
    (readable : ∀ modifier ∈ modifiers, modifier.Readable) : Settled (die.addCutoff modifiers) := by
  refine settled_bind_iff.mpr ⟨settled_foldlM fun _ modifier member =>
    CutoffScan.settled_add (readable modifier member) sizeFits, ?_⟩
  intro scan scanned
  have noted : scan.Fits := foldlM_preserves CutoffScan.Fits ⟨by simp, by simp⟩
    (fun _ modifier _ member held stepped => held.add (readable modifier member) stepped) scanned
  split
  · next minimum maximum minimumNoted maximumNoted =>
      have minimumFits := noted.minimum minimum minimumNoted
      have maximumFits := noted.maximum maximum maximumNoted
      simp only [clampBetween, settled_bind_iff]
      refine ⟨settled_checkMinimum minimumFits sizeFits, fun _ _ =>
        ⟨settled_checkMaximum maximumFits sizeFits, fun _ _ => ?_⟩⟩
      split
      · exact settled_reject_of_fits (by simp [NotationError.message, Piece.fits, minimumFits, maximumFits])
      · exact settled_pure _
  · next minimum minimumNoted _ =>
      exact settled_bind_iff.mpr
        ⟨settled_checkMinimum (noted.minimum minimum minimumNoted) sizeFits, fun _ _ => settled_pure _⟩
  · next maximum _ maximumNoted =>
      exact settled_bind_iff.mpr
        ⟨settled_checkMaximum (noted.maximum maximum maximumNoted) sizeFits, fun _ _ => settled_pure _⟩
  · exact settled_pure die

/-! ## All clauses -/

/-- Modifiers with numbers that can be written make a group or are rejected, unless they drop outsized numbers of
rolls on both sides. -/
theorem settled_addClauses_iff {modifiers : List Modifier} (whole : die.drop = .none)
    (sizeFits : Numeral.fits die.size = true) (countFits : Numeral.fits die.count = true)
    (readable : ∀ modifier ∈ modifiers, modifier.Readable) :
    Settled (die.addClauses modifiers) ↔ ¬ Modifier.DropsOutsized die.count modifiers := by
  rw [← settled_addDrop_iff whole countFits readable, addClauses, settled_bind_iff, and_iff_left_iff_imp]
  intro _ dropped built
  obtain ⟨drop, rfl⟩ := exists_drop_of_addDrop built
  refine settled_bind_iff.mpr ⟨settled_addReroll sizeFits countFits readable, fun rerolled rebuilt => ?_⟩
  obtain ⟨reroll, rfl⟩ := exists_reroll_of_addReroll rebuilt
  exact settled_addCutoff sizeFits readable

end Die
end DiceNotation
