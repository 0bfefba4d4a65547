import DiceNotation.Proofs.Bag.Bounded
import DiceNotation.Proofs.Play.Steps
import DiceNotation.Session.Commands

/-!
# Expressions that are read and remarked on

A bag that is read is remarked on, and the remark names its range. So a bag is only read when the remark is not kept
or its numbers can be written. A bag that is written is read back when it is well formed and can be remarked on.
-/

set_option autoImplicit false

namespace DiceNotation.Bag

variable {State : Type} {desk : Desk State} {expression : Text}

theorem takes_parsedRemark_iff {expression : Text} {bag : Bag} {journal : Journal} :
    journal.Takes .debug (parsedRemark expression bag) ↔
      (journal.keeps .debug = true → Numeral.fits bag.groups.length = true ∧
        Numeral.fits bag.range.low = true ∧ Numeral.fits bag.range.high = true) := by
  simp [Journal.Takes, parsedRemark, Piece.fits]

theorem exists_read_iff {expression : Text} {bag : Bag} :
    (∃ finish, (Bag.read expression).on desk = (.ok bag, finish)) ↔
      ofText expression = .ok bag ∧ desk.journal.Takes .debug (parsedRemark expression bag) := by
  constructor
  · intro given
    obtain ⟨finish, read⟩ := given
    obtain ⟨own, middle, lifted, rest⟩ := Play.on_bind_eq_ok_iff.mp read
    obtain ⟨made, rfl⟩ := Play.on_lift_eq_ok_iff.mp lifted
    obtain ⟨_, after, noted, ended⟩ := Play.on_bind_eq_ok_iff.mp rest
    obtain ⟨rfl, _⟩ := Play.on_pure_eq_ok_iff.mp ended
    exact ⟨made, Play.exists_on_note_eq_ok_iff.mp ⟨after, noted⟩⟩
  · intro given
    obtain ⟨made, takes⟩ := given
    obtain ⟨finish, noted⟩ := Play.exists_on_note_eq_ok_iff.mpr takes
    exact ⟨finish, Play.on_bind_eq_ok_iff.mpr ⟨bag, desk, Play.on_lift_eq_ok_iff.mpr ⟨made, rfl⟩,
      Play.on_bind_eq_ok_iff.mpr ⟨(), finish, noted, rfl⟩⟩⟩

/-- What reading an expression on a desk gives. -/
def reading (desk : Desk State) (expression : Text) : Except Failure Bag :=
  ((Bag.read expression).on desk).1

/-- The remark on a bag that is read is not kept, or all of its numbers can be written. -/
def RemarkFits (journal : Journal) (expression : Text) : Prop :=
  ∀ bag, ofText expression = .ok bag → journal.keeps .debug = true →
    Numeral.fits bag.groups.length = true ∧ Numeral.fits bag.range.low = true ∧ Numeral.fits bag.range.high = true

theorem remarkFits_iff {journal : Journal} {bag : Bag} (made : ofText expression = .ok bag) :
    RemarkFits journal expression ↔ journal.Takes .debug (parsedRemark expression bag) := by
  rw [takes_parsedRemark_iff]
  constructor
  · intro fits
    exact fits bag made
  · intro fits other read
    obtain rfl := Except.ok.inj (made.symm.trans read)
    exact fits

theorem reading_eq_ok_iff {bag : Bag} :
    reading desk expression = .ok bag ↔ ofText expression = .ok bag ∧ RemarkFits desk.journal expression := by
  have shape : reading desk expression = .ok bag ↔ ∃ finish, (Bag.read expression).on desk = (.ok bag, finish) := by
    rw [reading]
    rcases (Bag.read expression).on desk with ⟨outcome, finish⟩
    simp
  rw [shape, exists_read_iff]
  exact and_congr_right fun made => (remarkFits_iff made).symm

theorem reading_of_fits (fits : RemarkFits desk.journal expression) : reading desk expression = ofText expression := by
  cases made : ofText expression with
  | ok bag => exact reading_eq_ok_iff.mpr ⟨made, fits⟩
  | error failure => rw [reading, Bag.read, Play.on_bind, Play.on_lift, made]

theorem remarkFits_of_failed {journal : Journal} (failed : ¬ ∃ bag, ofText expression = .ok bag) :
    RemarkFits journal expression :=
  fun bag made => absurd ⟨bag, made⟩ failed

theorem reading_of_not_remarkFits (unfit : ¬ RemarkFits desk.journal expression) :
    reading desk expression = .error .numberTooLong := by
  obtain ⟨bag, made⟩ : ∃ bag, ofText expression = .ok bag := by
    by_contra failed
    exact unfit (remarkFits_of_failed failed)
  have noted : (Play.note .debug .reading (parsedRemark expression bag)).on desk = (.error .numberTooLong, desk) :=
    Play.on_note_of_not_takes (mt (remarkFits_iff made).mpr unfit)
  rw [reading, Bag.read, Play.on_bind, Play.on_lift, made]
  simp only [Play.on_bind, noted]

/-! ## Reading what was written -/

/-- Writing a bag and reading the expression gives the same bag exactly when it is well formed and, where remarks are
kept, its range can be written in one. Without the remark only the form of the bag counts. -/
theorem reading_write_eq_ok_iff_wellFormed (bag : Bag) (bounded : bag.Bounded) (desk : Desk State) :
    ((bag.write >>= ofText) = .ok bag ↔ bag.WellFormed) ∧
      ((bag.write >>= reading desk) = .ok bag ↔ bag.WellFormed ∧ RemarkFits desk.journal bag.phrase.text) := by
  refine ⟨ofText_write_eq_ok_iff bag bounded, ?_⟩
  constructor
  · intro same
    obtain ⟨text, written, read⟩ := bind_eq_ok_iff.mp same
    obtain ⟨made, fits⟩ := reading_eq_ok_iff.mp read
    obtain ⟨_, rfl⟩ := Phrase.write_eq_ok_iff.mp written
    exact ⟨wellFormed_of_ofText made, fits⟩
  · intro given
    obtain ⟨formed, fits⟩ := given
    rw [write_eq_ok formed bounded, ok_bind, reading_of_fits fits]
    exact ofText_phrase formed bounded

/-- Four dice that lose their lowest and their highest roll, less a bonus of two, with all remarks kept. -/
theorem reading_write_keeping_middle :
    let bag : Bag :=
      { groups := [.dice { size := 6, count := 4, drop := .keeping [1, 2] },
          .bonus { value := 2, sign := .minus }] }
    let desk : Desk Unit := { source := (), journal := { threshold := .debug } }
    (bag.write >>= ofText) = .ok bag ∧ (bag.write >>= reading desk) = .ok bag := by
  intro bag desk
  have bounded : bag.Bounded := by
    intro group member
    rcases List.mem_pair.mp member with rfl | rfl
    · refine ⟨by decide +kernel, ?_⟩
      rintro positions ⟨⟩
      decide
    · exact (by decide +kernel : Numeral.fits 2 = true)
  have formed : bag.WellFormed := by
    refine ⟨⟨_, _, rfl, rfl⟩, ?_⟩
    intro group member
    rcases List.mem_pair.mp member with rfl | rfl
    · exact ⟨by decide, ⟨1, 1, by decide, by decide⟩, rfl, trivial⟩
    · exact (by decide : (0 : Int) ≤ 2)
  have fits : RemarkFits desk.journal bag.phrase.text :=
    (remarkFits_iff (ofText_phrase formed bounded)).mpr (takes_parsedRemark_iff.mpr fun _ => by decide +kernel)
  obtain ⟨plain, remarked⟩ := reading_write_eq_ok_iff_wellFormed bag bounded desk
  exact ⟨plain.mpr formed, remarked.mpr ⟨formed, fits⟩⟩

end DiceNotation.Bag
