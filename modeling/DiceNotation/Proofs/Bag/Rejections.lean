import DiceNotation.Proofs.Notation.Overlong
import DiceNotation.Proofs.Play.Steps
import DiceNotation.Session.Commands

/-!
# Rejections of expressions

A cause is only given as a rejection when its message can be written, so whoever is told of a rejection can be shown
the message. An expression is rejected for any cause but two: what follows the size of a die never begins with
something else than a letter, and a group is bare when its drops are added. Every step of reading keeps to both.
-/

set_option autoImplicit false

namespace DiceNotation

open Notation

variable {Value Result : Type}

/-- A cause for which an expression may be rejected. The other two are for calls with parts that no expression
has. -/
@[simp] def NotationError.Arises (error : NotationError) : Prop :=
  (∀ char, error ≠ .modifierWithoutLetter char) ∧ error ≠ .conflictingDrops

/-- A rejection, if it is one, is for a cause of expressions and has a message that can be written. -/
def Arising (outcome : Except Failure Value) : Prop :=
  ∀ error, outcome = .error (.rejected error) → error.Arises ∧ ∀ piece ∈ error.message, piece.fits = true

@[simp] theorem arising_ok (value : Value) : Arising (.ok value) :=
  fun _ failed => by cases failed

@[simp] theorem arising_pure (value : Value) : Arising (pure value) :=
  arising_ok value

@[simp] theorem arising_reject_iff {error : NotationError} :
    Arising (reject error : Except Failure Value) ↔
      ((∀ piece ∈ error.message, piece.fits = true) → error.Arises) := by
  simp only [Arising, reject_eq_rejected_iff]
  constructor
  · intro arising fits
    exact (arising error ⟨fits, rfl⟩).1
  · rintro arises _ ⟨fits, rfl⟩
    exact ⟨arises fits, fits⟩

@[simp] theorem arising_bind_iff {outcome : Except Failure Value} {next : Value → Except Failure Result} :
    Arising (outcome >>= next) ↔ Arising outcome ∧ ∀ value, outcome = .ok value → Arising (next value) := by
  cases outcome with
  | ok value => simp [ok_bind]
  | error failure =>
      change Arising (.error failure) ↔ _
      simp [Arising]

@[simp] theorem arising_map_iff {change : Value → Result} {outcome : Except Failure Value} :
    Arising (change <$> outcome) ↔ Arising outcome := by
  simp [Arising, map_eq_error_iff]

theorem arising_mapM {step : Value → Except Failure Result} {values : List Value}
    (arising : ∀ value ∈ values, Arising (step value)) : Arising (values.mapM step) := by
  induction values with
  | nil => exact arising_pure []
  | cons value values ih =>
      obtain ⟨own, others⟩ := List.forall_mem_cons.mp arising
      simp [own, ih others]

theorem arising_foldlM {step : Result → Value → Except Failure Result} {values : List Value} {memory : Result}
    (arising : ∀ before value, Arising (step before value)) : Arising (values.foldlM step memory) := by
  induction values generalizing memory with
  | nil => exact arising_pure memory
  | cons value values ih =>
      rw [List.foldlM_cons, arising_bind_iff]
      exact ⟨arising memory value, fun after _ => ih⟩

/-! ## Groups -/

@[simp] theorem arising_checkDrop (dropped count : Int) : Arising (checkDrop dropped count) := by
  unfold checkDrop
  split <;> simp

@[simp] theorem arising_checkRerollAbove (threshold size : Int) : Arising (checkRerollAbove threshold size) := by
  unfold checkRerollAbove
  split <;> simp

@[simp] theorem arising_checkRerollBelow (threshold size : Int) : Arising (checkRerollBelow threshold size) := by
  unfold checkRerollBelow
  split <;> simp

@[simp] theorem arising_checkRerollCount (rerolls count : Int) : Arising (checkRerollCount rerolls count) := by
  unfold checkRerollCount
  split <;> simp

@[simp] theorem arising_checkMaximum (maximum size : Int) : Arising (checkMaximum maximum size) := by
  unfold checkMaximum
  split <;> simp

@[simp] theorem arising_checkMinimum (minimum size : Int) : Arising (checkMinimum minimum size) := by
  unfold checkMinimum
  split <;> simp

namespace Die

variable (die : Die) (modifiers : List Modifier)

@[simp] theorem arising_keepMiddle (lowest highest : Int) : Arising (die.keepMiddle lowest highest) := by
  have positions : Arising (keptPositions lowest highest die.count) := by
    unfold keptPositions
    split <;> simp [Arising]
  simp [keepMiddle, positions]

theorem arising_dropLowest (number : Int) : Arising (die.dropLowest number) := by
  unfold dropLowest
  split <;> simp

theorem arising_dropHighest (number : Int) : Arising (die.dropHighest number) := by
  unfold dropHighest
  split <;> simp

theorem arising_dropEnds (whole : die.drop = .none) (lowest highest : Int) :
    Arising (die.dropEnds lowest highest) := by
  simp [dropEnds, whole]

theorem arising_droppedByKeeping (kept : Int) : Arising (die.droppedByKeeping kept) := by
  unfold droppedByKeeping
  split <;> simp

theorem DropScan.arising_setLowest {scan : DropScan} {dropped : Except Failure Int} (arising : Arising dropped) :
    Arising (scan.setLowest dropped) := by
  unfold setLowest
  split <;> simp [arising]

theorem DropScan.arising_setHighest {scan : DropScan} {dropped : Except Failure Int} (arising : Arising dropped) :
    Arising (scan.setHighest dropped) := by
  unfold setHighest
  split <;> simp [arising]

theorem DropScan.arising_add (scan : DropScan) (modifier : Modifier) : Arising (scan.add die modifier) := by
  have number : Arising (die.droppedByNumber modifier.value) := by simp [droppedByNumber]
  have keeping := die.arising_droppedByKeeping modifier.value
  unfold DropScan.add
  split
  · exact arising_setLowest number
  · exact arising_setLowest keeping
  · exact arising_setHighest number
  · exact arising_setHighest keeping
  · exact arising_ok scan

theorem arising_addDrop (whole : die.drop = .none) : Arising (die.addDrop modifiers) := by
  refine arising_bind_iff.mpr ⟨arising_foldlM (DropScan.arising_add die), fun scan _ => ?_⟩
  split
  · exact die.arising_dropEnds whole _ _
  · exact die.arising_dropLowest _
  · exact die.arising_dropHighest _
  · exact arising_pure die

theorem RerollScan.arising_add (scan : RerollScan) (modifier : Modifier) : Arising (scan.add die modifier) := by
  unfold RerollScan.add setCondition
  split
  · split <;> simp
  · split <;> simp
  · split <;> simp
  · exact arising_ok scan

theorem arising_addReroll : Arising (die.addReroll modifiers) := by
  refine arising_bind_iff.mpr ⟨arising_foldlM (RerollScan.arising_add die), fun scan _ => ?_⟩
  split <;> simp [rerollAbove, rerollBelow]

theorem CutoffScan.arising_add (scan : CutoffScan) (modifier : Modifier) : Arising (scan.add die modifier) := by
  unfold CutoffScan.add
  split
  · split <;> simp
  · split <;> simp
  · exact arising_ok scan

theorem arising_addCutoff : Arising (die.addCutoff modifiers) := by
  refine arising_bind_iff.mpr ⟨arising_foldlM (CutoffScan.arising_add die), fun scan _ => ?_⟩
  split
  · simp only [clampBetween, arising_bind_iff, arising_checkMinimum, arising_checkMaximum, true_and]
    intro _ _ _ _
    split <;> simp
  · simp [raiseTo]
  · simp [lowerTo]
  · exact arising_pure die

theorem arising_addClauses (whole : die.drop = .none) : Arising (die.addClauses modifiers) := by
  simp [addClauses, die.arising_addDrop modifiers whole, arising_addReroll, arising_addCutoff]

end Die

theorem Group.arising_ofToken (token : Token) : Arising (ofToken token) := by
  unfold ofToken
  split <;> simp [Die.arising_addClauses]

/-! ## Texts -/

@[simp] theorem arising_read (run : Text) : Arising (Numeral.read run) := by
  unfold Numeral.read
  split <;> simp [Arising]

theorem Modifier.arising_ofParts (code numeral : Text) : Arising (ofParts code numeral) := by
  unfold ofParts
  split <;> simp

theorem Modifier.arising_listOfText {text : Text}
    (letter : ∀ first rest, text = first :: rest → Text.isLetter first = true) : Arising (listOfText text) := by
  unfold listOfText
  split
  · exact arising_ok []
  · next first rest =>
      rw [if_pos (letter first rest rfl)]
      simp only
      split
      · exact arising_mapM fun parts _ => arising_ofParts parts.1 parts.2
      · simp

namespace Token

theorem arising_countOfText (text : Text) : Arising (countOfText text) := by
  unfold countOfText
  split <;> simp

/-- What follows the size is not a digit, and of the other characters that may stand there all are letters. -/
theorem SplitsAs.letter {text countText sizeText rest : Text} {explosive : Bool}
    (splits : SplitsAs text countText sizeText rest explosive) (own : ∀ char ∈ text, IsGroupCharacter char) :
    ∀ first later, rest = first :: later → Text.isLetter first = true := by
  rintro first later rfl
  have character : IsModifierCharacter first := splits.own own first (by simp)
  rw [character.isLetter_eq, splits.ended first rfl]
  rfl

theorem arising_diceOfText {text : Text} (own : ∀ char ∈ text, IsGroupCharacter char) :
    Arising (diceOfText text) := by
  rcases exists_splitsAs_or text with ⟨countText, sizeText, rest, explosive, splits⟩ | misplaced | malformed
  · rw [splits.diceOfText]
    refine arising_bind_iff.mpr ⟨arising_countOfText countText, fun count _ => ?_⟩
    refine arising_bind_iff.mpr ⟨arising_read sizeText, fun size _ => ?_⟩
    split
    · simp
    · simp [Modifier.arising_listOfText (splits.letter own)]
  · rw [misplaced]
    simp
  · rw [malformed]
    simp

theorem arising_ofPiece (sign : Sign) {text : Text} (own : ∀ char ∈ text, IsGroupCharacter char) :
    Arising (ofPiece sign text) := by
  have body : Arising (bodyOfText text) := by
    unfold bodyOfText
    split
    · simp
    · split
      · exact arising_diceOfText own
      · split <;> simp
  simp [ofPiece, body]

theorem arising_listOfText (text : Text) : Arising (listOfText text) := by
  have characters : Arising (checkCharacters (cleaned text)) := by
    unfold checkCharacters
    split <;> simp
  have cut : Arising (signedPieces (cleaned text)) := by
    unfold signedPieces
    simp only
    split <;> simp
  refine arising_bind_iff.mpr ⟨characters, fun _ checked => arising_bind_iff.mpr ⟨cut, fun pieces made => ?_⟩⟩
  have own := groupCharacters_of_signedPieces (checkCharacters_eq_ok_iff.mp checked) made
  exact arising_mapM fun piece member => arising_ofPiece piece.1 (own piece member)

end Token

theorem Bag.arising_ofText (text : Text) : Arising (ofText text) := by
  refine arising_bind_iff.mpr ⟨Token.arising_listOfText text, fun tokens _ => ?_⟩
  exact arising_bind_iff.mpr ⟨arising_mapM fun token _ => Group.arising_ofToken token, fun _ _ => arising_pure _⟩

theorem Play.numberTooLong_of_on_note {State : Type} {desk finish : Desk State} {level : Level} {origin : Origin}
    {remark : Phrase} {failure : Failure}
    (noted : (note level origin remark).on desk = (.error failure, finish)) : failure = .numberTooLong := by
  by_cases takes : desk.journal.Takes level remark
  · obtain ⟨_, succeeds⟩ := exists_on_note_eq_ok_iff.mpr takes
    rw [succeeds] at noted
    cases noted
  · rw [on_note_of_not_takes takes] at noted
    cases noted
    rfl

/-- Reading rejects an expression as taking it apart and building its groups do; the remark on the bag rejects
nothing. -/
theorem Bag.read_rejects_iff {State : Type} {text : Text} {desk : Desk State} {error : NotationError} :
    ((Bag.read text).on desk).1 = .error (.rejected error) ↔ ofText text = .error (.rejected error) := by
  rw [Bag.read, Play.on_bind, Play.on_lift]
  cases parsed : ofText text with
  | error failure => simp
  | ok bag =>
      refine iff_of_false ?_ (by simp)
      simp only [Play.on_bind]
      split
      · exact pure_ne_error
      · next failure _ noted => simp [Play.numberTooLong_of_on_note noted]

/-! ## Causes of calls -/

theorem Modifier.listOfText_rejects_iff {text char : Text} :
    listOfText text = .error (.rejected (.modifierWithoutLetter char)) ↔
      ∃ first rest, text = first :: rest ∧ Text.isLetter first = false ∧ [first] = char := by
  constructor
  · intro failed
    cases text with
    | nil => cases failed
    | cons first rest =>
        refine ⟨first, rest, rfl, ?_⟩
        cases letter : Text.isLetter first with
        | true =>
            have arising : Arising (listOfText (first :: rest)) := arising_listOfText fun other later same => by
              obtain ⟨rfl, rfl⟩ := List.cons.inj same
              exact letter
            exact absurd rfl ((arising _ failed).1.1 char)
        | false =>
            rw [listOfText, if_neg (by simp [letter]), reject_eq_rejected_iff] at failed
            exact ⟨rfl, NotationError.modifierWithoutLetter.inj failed.2⟩
  · rintro ⟨first, rest, rfl, other, rfl⟩
    rw [listOfText, if_neg (by simp [other]), reject_eq_rejected_iff]
    exact ⟨by simp [NotationError.message, Piece.fits], rfl⟩

theorem Die.dropEnds_rejects_iff {die : Die} {lowest highest : Int} :
    die.dropEnds lowest highest = .error (.rejected .conflictingDrops) ↔ die.drop ≠ .none := by
  constructor
  · intro failed whole
    exact (die.arising_dropEnds whole lowest highest _ failed).1.2 rfl
  · intro dropping
    unfold dropEnds
    split
    · next whole => exact absurd whole dropping
    · exact reject_eq_rejected_iff.mpr ⟨by simp [NotationError.message, Piece.fits], rfl⟩

/-- No expression is rejected for modifiers that do not begin with a letter, nor for a drop on both sides of a group
that drops rolls already. A call with such modifiers, or on such a group, is rejected for exactly that. -/
theorem Bag.causes_of_calls_never_arise {State : Type} :
    (∀ (text : Text) (desk : Desk State),
        (∀ char, ((Bag.read text).on desk).1 ≠ .error (.rejected (.modifierWithoutLetter char))) ∧
          ((Bag.read text).on desk).1 ≠ .error (.rejected .conflictingDrops)) ∧
      (∀ text char, Modifier.listOfText text = .error (.rejected (.modifierWithoutLetter char)) ↔
        ∃ first rest, text = first :: rest ∧ Text.isLetter first = false ∧ [first] = char) ∧
      ∀ (die : Die) (lowest highest : Int),
        die.dropEnds lowest highest = .error (.rejected .conflictingDrops) ↔ die.drop ≠ .none := by
  refine ⟨fun text desk => ⟨fun char failed => ?_, fun failed => ?_⟩, fun _ _ => Modifier.listOfText_rejects_iff,
    fun _ _ _ => Die.dropEnds_rejects_iff⟩
  · have arises := (arising_ofText text _ (read_rejects_iff.mp failed)).1
    exact arises.1 char rfl
  · have arises := (arising_ofText text _ (read_rejects_iff.mp failed)).1
    exact arises.2 rfl

end DiceNotation
