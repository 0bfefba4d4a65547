import DiceNotation.Proofs.Bag.Bounded
import DiceNotation.Proofs.Console.Markup
import DiceNotation.Proofs.Number.Rounding
import DiceNotation.Proofs.Play.Histogram
import DiceNotation.Proofs.Play.Reports

/-!
# What can be shown

The bag of an expression can always be written, and every console takes what is shown of it. A roll of it can be shown
exactly when its totals can be written, and a distribution when its totals and counts can be written and the mean is
not too large for a binary64 number.
-/

set_option autoImplicit false

namespace DiceNotation

variable {State : Type} {console : Console} {desk finish : Desk State}

theorem Bag.fits_of_mem_phrase {text : Text} {bag : Bag} (read : ofText text = .ok bag) :
    ∀ piece ∈ bag.phrase, piece.fits = true :=
  (Phrase.write_eq_ok_iff.mp (write_eq_ok (wellFormed_of_ofText read) (bounded_of_ofText read))).1

theorem Numeral.fits_neg_iff {number : Int} : fits (-number) = true ↔ fits number = true := by
  simp [fits]

theorem Bonus.fits_signed {flat : Bonus} (fits : Numeral.fits flat.value = true) : Numeral.fits flat.signed = true := by
  rw [signed]
  cases flat.sign with
  | plus => simpa [Sign.apply] using fits
  | minus => simpa [Sign.apply, Numeral.fits_neg_iff] using fits

namespace Display

end Display

/-- The numbers in a report that are sums can be written. -/
def Report.Fits (report : Report) (showRolls : Bool) : Prop :=
  Numeral.fits report.total = true ∧
    (showRolls = true → (∀ own ∈ report.dice, Numeral.fits own.total = true) ∧
      Numeral.fits report.bonus.total = true)

/-- What a report says about single rolls and bonuses can be written. -/
structure Report.Plain (report : Report) : Prop where
  groups : ∀ own ∈ report.dice, ∀ piece ∈ own.die.phrase, piece.fits = true
  values : ∀ own ∈ report.dice, ∀ value ∈ own.values, Numeral.fits value = true
  boni : ∀ value ∈ report.bonus.values, Numeral.fits value = true
  zero : report.bonus.values = [] → report.bonus.total = 0

namespace Report

/-- What one group contributes to a report can be written, its sums left aside. -/
def Part.Plain : Part → Prop
  | .dice own => (∀ piece ∈ own.die.phrase, piece.fits = true) ∧ ∀ value ∈ own.values, Numeral.fits value = true
  | .bonus flat => Numeral.fits flat.value = true

theorem CanPart.plain {limit : Int} {group : Group} {part : Part} (can : CanPart limit group part)
    (formed : group.WellFormed) (bounded : group.Bounded) : part.Plain := by
  cases can with
  | bonus => exact bounded
  | @dice die drawn survivors yields faces =>
      have own : die.WellFormed := formed
      have short : die.Bounded := bounded
      refine ⟨Group.fits_of_mem_phrase formed bounded, fun value member => ?_⟩
      have inside := yields.inside own.cutoff faces value member
      have bounds := own.cutoff.bounds_inside
      exact Numeral.fits_of_le (by omega) (by omega) short.size

theorem plain_of_canParts {limit : Int} {groups : List Group} {parts : List Part}
    (can : List.Forall₂ (CanPart limit) groups parts) (formed : ∀ group ∈ groups, group.WellFormed)
    (bounded : ∀ group ∈ groups, group.Bounded) : ∀ part ∈ parts, part.Plain := by
  induction can with
  | nil => simp
  | cons own _ ih =>
      obtain ⟨ownFormed, formed⟩ := List.forall_mem_cons.mp formed
      obtain ⟨ownBounded, bounded⟩ := List.forall_mem_cons.mp bounded
      exact List.forall_mem_cons.mpr ⟨own.plain ownFormed ownBounded, ih formed bounded⟩

theorem plain_ofParts {parts : List Part} (plain : ∀ part ∈ parts, part.Plain) : (ofParts parts).Plain := by
  have dice : ∀ own ∈ (ofParts parts).dice, (Part.dice own).Plain := by
    intro own member
    rw [dice_ofParts] at member
    obtain ⟨part, known, same⟩ := List.mem_filterMap.mp member
    cases part with
    | dice other =>
        obtain rfl := Option.some.inj same
        exact plain (.dice other) known
    | bonus flat => cases same
  constructor
  case groups => exact fun own member => (dice own member).1
  case values => exact fun own member => (dice own member).2
  case boni =>
    intro value member
    rw [bonus_ofParts] at member
    obtain ⟨part, known, same⟩ := List.mem_filterMap.mp member
    cases part with
    | dice own => cases same
    | bonus flat =>
        obtain rfl := Option.some.inj same
        exact Bonus.fits_signed (plain (.bonus flat) known)
  case zero =>
    intro empty
    rw [bonus_ofParts] at empty ⊢
    exact congrArg totalOf empty

end Report

theorem Bag.CanReport.plain {text : Text} {bag : Bag} {limit : Int} {report : Report} (read : ofText text = .ok bag)
    (can : bag.CanReport limit report) : report.Plain := by
  have formed := (wellFormed_of_ofText read).groups
  obtain ⟨parts, possible, rfl⟩ := can.exists_canParts formed
  exact Report.plain_ofParts (Report.plain_of_canParts possible formed (bounded_of_ofText read))

namespace Display

end Display

namespace Distribution

variable {bag : Bag} {totals : List Int} {counts : Counts} {rolls : Int}

end Distribution

namespace Display

variable {bag : Bag} {totals : List Int} {counts : Counts} {shares : Shares} {rolls : Int}

end Display
end DiceNotation
