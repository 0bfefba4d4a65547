import DiceNotation.Proofs.Bag.Rejections
import DiceNotation.Proofs.Bag.Remarks
import DiceNotation.Proofs.Die.Outsized
import DiceNotation.Proofs.Notation.Overlong

/-!
# Sessions answer expressions

A session answers an expression with its bag or, when it is rejected, with nothing. It fails to answer in four
cases: an overlong numeral, an outsized drop, a remark on the bag that is kept but cannot be written, and a report of
the rejection that the console refuses.
-/

set_option autoImplicit false

namespace DiceNotation

variable {State Result : Type} {desk finish : Desk State}

/-! ## Bags -/

/-- The modifiers of the dice drop outsized numbers of rolls on both sides. -/
def Token.OutsizedDrop (token : Token) : Prop :=
  ∃ count size explosive modifiers,
    token.body = .dice count size explosive modifiers ∧ Modifier.DropsOutsized count modifiers

theorem Grammar.WritesModifiers.readable {text : Text} {modifiers : List Modifier}
    (written : WritesModifiers text modifiers) : ∀ modifier ∈ modifiers, modifier.Readable := by
  induction written with
  | nil => simp
  | cons valid _ ih =>
      exact List.forall_mem_cons.mpr ⟨⟨Int.natCast_nonneg _, Numeral.fits_value valid⟩, ih⟩

theorem Group.settled_ofToken_iff {sign : Sign} {text : Text} {body : TokenBody}
    (written : Grammar.WritesGroup text body) :
    Settled (ofToken ⟨sign, text, body⟩) ↔ ¬ Token.OutsizedDrop ⟨sign, text, body⟩ := by
  cases written with
  | bonus valid =>
      refine iff_of_true (settled_ok _) fun given => ?_
      obtain ⟨_, _, _, _, shape, _⟩ := given
      cases shape
  | @dice _ sizeText _ _ count explosive modifiers countWritten sizeValid _ modifiersWritten _ =>
      let plain : Die := { size := Numeral.value sizeText, count, sign, explosive }
      have whole : plain.drop = .none := rfl
      have clauses := Die.settled_addClauses_iff whole (Numeral.fits_value sizeValid) countWritten.fits
        modifiersWritten.readable
      simp only [ofToken, settled_bind_iff, settled_pure, implies_true, and_true]
      refine clauses.trans (not_congr ⟨fun outsized => ⟨_, _, _, _, rfl, outsized⟩, fun given => ?_⟩)
      obtain ⟨_, _, _, _, shape, outsized⟩ := given
      cases shape
      exact outsized

theorem Bag.settled_ofText_iff (text : Text) :
    Settled (ofText text) ↔
      ¬ Grammar.Overlong (Notation.cleaned text) ∧
        ∀ tokens, Grammar.Writes (Notation.cleaned text) tokens →
          ¬ Reaches (fun token => ∃ group, Group.ofToken token = .ok group) Token.OutsizedDrop tokens := by
  simp only [ofText, settled_bind_iff, settled_pure, implies_true, and_true, Token.settled_listOfText_iff]
  refine and_congr_right fun _ => forall_congr' fun tokens => ?_
  have each : ∀ (written : Grammar.Writes (Notation.cleaned text) tokens), Settled (tokens.mapM Group.ofToken) ↔
      ¬ Reaches (fun token => ∃ group, Group.ofToken token = .ok group) Token.OutsizedDrop tokens := by
    intro written
    obtain ⟨_, groups, _⟩ := Grammar.writes_iff.mp written
    rw [settled_mapM_iff]
    refine not_congr (Reaches.congr (fun _ _ => Iff.rfl) fun token member => ?_)
    rw [Group.settled_ofToken_iff (groups token member), not_not]
  constructor
  · intro settled written
    exact (each written).mp (settled (Token.listOfText_of_writes written))
  · intro sized read
    have written := Token.writes_of_listOfText read
    exact (each written).mpr (sized written)

/-- A run of digits that is too long by itself. -/
theorem Bag.ofText_of_overlong_digits {run : Text} (digits : ∀ char ∈ run, '0' ≤ char ∧ char ≤ '9')
    (long : Numeral.digitLimit < run.length) : ofText run = .error (.numeralTooLong run.length) := by
  have own : ∀ char ∈ run, Notation.IsModifierCharacter char := fun char member =>
    Notation.isModifierCharacter_of_ascii (digits char member).1 (digits char member).2
  have allowed : ∀ char ∈ run, char ∈ Notation.allowedCharacters := fun char member => (own char member).allowed
  have nonempty : run ≠ [] := by
    rintro rfl
    cases long
  have pieces : Notation.signedPieces run = .ok [(.plus, run)] := by
    have cut := Notation.cutAtSigns_append (fun char member => (own char member).not_sign) []
    rw [List.append_nil] at cut
    refine Notation.signedPieces_eq_ok_iff.mpr ⟨by simpa using nonempty, ?_⟩
    rw [cut]
    simp [Notation.cutAtSigns]
  have numeral : Token.isNumeral run = true := Token.isNumeral_eq_true_iff.mpr ⟨nonempty, fun char member =>
    Notation.isDecimal_of_ascii (digits char member).1 (digits char member).2⟩
  have unread : Numeral.read run = .error (.numeralTooLong run.length) := by
    rw [Numeral.read, Numeral.read?_eq_none_iff.mpr long]
  have checked := Notation.checkCharacters_eq_ok_iff.mpr allowed
  simp only [ofText, Token.listOfText, Notation.cleaned_of_allowed allowed, checked, pieces, ok_bind,
    List.mapM_cons, Token.ofPiece, Token.bodyOfText, numeral, if_true, unread]
  rfl

/-! ## Remarks -/

theorem not_settled_write {phrase : Phrase} {failure : Failure} (failed : phrase.write = .error failure) :
    ¬ Settled (.error failure : Except Failure Result) := by
  unfold Phrase.write at failed
  split at failed
  · cases failed
  · cases failed
    simp [settled_error_iff]

namespace Play

/-- A remark that is kept and cannot be written leaves its play unsettled. -/
theorem settled_note_iff {level : Level} {origin : Origin} {remark : Phrase} :
    Settled ((note level origin remark).on desk).1 ↔ desk.journal.Takes level remark := by
  rw [← exists_on_note_eq_ok_iff, on_note]
  split
  · cases written : remark.write with
    | ok text => exact iff_of_true (settled_ok ()) ⟨_, rfl⟩
    | error failure => exact iff_of_false (not_settled_write written) (by simp)
  · exact iff_of_true (settled_ok ()) ⟨desk, rfl⟩

theorem settled_on_bind_iff {Value : Type} {play : Play State Value} {next : Value → Play State Result} :
    Settled ((play >>= next).on desk).1 ↔
      Settled (play.on desk).1 ∧
        ∀ value middle, play.on desk = (.ok value, middle) → Settled ((next value).on middle).1 := by
  rw [on_bind]
  rcases play.on desk with ⟨failure | value, middle⟩
  · simp [settled_error_iff]
  · simp

end Play

/-! ## Reading -/

/-- What an expression and a journal are like when the expression is read or rejected. -/
structure Bag.Answerable (expression : Text) (journal : Journal) : Prop where
  numerals : ¬ Grammar.Overlong (Notation.cleaned expression)
  drops : ∀ tokens, Grammar.Writes (Notation.cleaned expression) tokens →
    ¬ Reaches (fun token => ∃ group, Group.ofToken token = .ok group) Token.OutsizedDrop tokens
  remark : Bag.RemarkFits journal expression

theorem Bag.settled_read_iff_takes {expression : Text} :
    Settled ((Bag.read expression).on desk).1 ↔
      Settled (ofText expression) ∧
        ∀ bag, ofText expression = .ok bag → desk.journal.Takes .debug (parsedRemark expression bag) := by
  rw [Bag.read, Play.settled_on_bind_iff, Play.on_lift]
  refine and_congr_right fun _ => ⟨fun settled bag made => ?_, fun takes bag middle lifted => ?_⟩
  · have noted := settled bag desk (by rw [made])
    exact Play.settled_note_iff.mp (Play.settled_on_bind_iff.mp noted).1
  · obtain ⟨made, rfl⟩ := Prod.mk.inj lifted
    exact Play.settled_on_bind_iff.mpr
      ⟨Play.settled_note_iff.mpr (takes bag made), fun _ _ _ => settled_ok bag⟩

theorem Bag.settled_read_iff (expression : Text) (desk : Desk State) :
    Settled ((Bag.read expression).on desk).1 ↔ Bag.Answerable expression desk.journal := by
  rw [settled_read_iff_takes, settled_ofText_iff]
  simp only [takes_parsedRemark_iff]
  constructor
  · intro given
    exact ⟨given.1.1, given.1.2, given.2⟩
  · intro answerable
    exact ⟨⟨answerable.numerals, answerable.drops⟩, answerable.remark⟩

namespace Session

variable {console : Console} {expression : Text} {bag : Bag} {error : NotationError} {failure : Failure}

theorem exists_on_readBag (read : Bag.ofText expression = .ok bag) (fits : Bag.RemarkFits desk.journal expression) :
    ∃ middle, (readBag console expression).on desk = (.ok (some bag), middle) ∧ middle.source = desk.source ∧
      middle.journal.threshold = desk.journal.threshold := by
  obtain ⟨finish, noted⟩ : ∃ finish,
      (Play.note .debug .reading (Bag.parsedRemark expression bag)).on desk = (.ok (), finish) :=
    Play.exists_on_note_eq_ok_iff.mpr ((Bag.remarkFits_iff read).mp fits)
  obtain ⟨reversed, rfl⟩ := Play.exists_of_on_note noted
  refine ⟨{ desk with journal := { desk.journal with reversed } }, ?_, rfl, rfl⟩
  have made : (Bag.read expression).on desk = (.ok bag, { desk with journal := { desk.journal with reversed } }) := by
    rw [Bag.read, Play.on_bind, Play.on_lift, read]
    simp only [Play.on_bind, noted]
    rfl
  rw [readBag, Play.on_tryCatch, Play.on_bind, made]
  rfl

/-- The event that reports a rejected expression. -/
def errorEvent (expression : Text) (error : NotationError) : Console.Event :=
  .print (Display.errorMarkup expression error).text

/-- A rejected expression is remarked on, if such remarks are kept, and then reported. The session answers with nothing
when the console takes the report, and fails when it refuses it. -/
theorem exists_on_readBag_of_rejected (console : Console) (desk : Desk State)
    (failed : Bag.ofText expression = .error (.rejected error)) :
    ∃ reversed, (readBag console expression).on desk =
      let heard : Desk State := { desk with journal := { desk.journal with reversed } }
      if console.takes (errorEvent expression error) then
        (.ok none, { heard with shown := errorEvent expression error :: heard.shown })
      else (.error .unshowable, heard) := by
  have words := (Bag.arising_ofText expression error failed).2
  have takes : desk.journal.Takes .info
      ([.say "Could not parse ", .word (Text.quoted expression), .say ": "] ++ error.message) :=
    fun _ => List.forall_mem_append.mpr ⟨by simp [Piece.fits], words⟩
  obtain ⟨middle, noted⟩ : ∃ middle, (Play.note .info .session _).on desk = (.ok (), middle) :=
    Play.exists_on_note_eq_ok_iff.mpr takes
  obtain ⟨reversed, rfl⟩ := Play.exists_of_on_note noted
  have written : (Display.errorMarkup expression error).write = .ok (Display.errorMarkup expression error).text :=
    Phrase.write_eq_ok_iff.mpr ⟨List.forall_mem_append.mpr ⟨by simp [Piece.fits], words⟩, rfl⟩
  have read : (Bag.read expression).on desk = (.error (.rejected error), desk) := by
    rw [Bag.read, Play.on_bind, Play.on_lift, failed]
  have shown : ∀ heard : Desk State, (Display.showError console expression error).on heard =
      if console.takes (errorEvent expression error) then
        (.ok (), { heard with shown := errorEvent expression error :: heard.shown })
      else (.error .unshowable, heard) := by
    intro heard
    rw [Display.showError, Display.print, Play.on_bind, Play.on_lift, written]
    exact Play.on_present
  refine ⟨reversed, ?_⟩
  rw [readBag, Play.on_tryCatch, Play.on_bind, read]
  simp only [Play.on_bind, noted, shown]
  cases console.takes (errorEvent expression error) <;> rfl

/-- A failure to read that rejects nothing ends the session. -/
theorem on_readBag_of_failure {middle : Desk State} (failed : (Bag.read expression).on desk = (.error failure, middle))
    (other : ∀ error, failure ≠ .rejected error) :
    (readBag console expression).on desk = (.error failure, middle) := by
  rw [readBag, Play.on_tryCatch, Play.on_bind, failed]
  cases failure with
  | rejected error => exact absurd rfl (other error)
  | _ => rfl

theorem readBag_of_failure (failed : Bag.ofText expression = .error failure)
    (other : ∀ error, failure ≠ .rejected error) : (readBag console expression).on desk = (.error failure, desk) := by
  refine on_readBag_of_failure ?_ other
  rw [Bag.read, Play.on_bind, Play.on_lift, failed]

/-- The remark on a bag that a session answers with was made. -/
theorem remarkFits_of_readBag {found : Option Bag}
    (played : (readBag console expression).on desk = (.ok found, finish)) : Bag.RemarkFits desk.journal expression := by
  by_contra unfit
  have failed : (Bag.read expression).on desk = (.error .numberTooLong, ((Bag.read expression).on desk).2) :=
    Prod.ext (Bag.reading_of_not_remarkFits unfit) rfl
  rw [on_readBag_of_failure failed (by simp)] at played
  cases played

theorem exists_readBag_iff {found : Option Bag} :
    (∃ finish, (readBag console expression).on desk = (.ok found, finish)) ↔
      Settled ((Bag.read expression).on desk).1 ∧ found = (Bag.ofText expression).toOption ∧
        ∀ error, Bag.ofText expression = .error (.rejected error) →
          console.takes (errorEvent expression error) = true := by
  rw [Bag.settled_read_iff_takes]
  cases made : Bag.ofText expression with
  | ok bag =>
      simp only [settled_ok, true_and, Except.ok.injEq, forall_eq', reduceCtorEq, false_imp_iff, implies_true, and_true,
        ← Bag.remarkFits_iff made]
      constructor
      · intro given
        obtain ⟨finish, played⟩ := given
        have fits := remarkFits_of_readBag played
        obtain ⟨_, answered, _⟩ := exists_on_readBag made fits
        rw [played] at answered
        exact ⟨fits, Except.ok.inj (Prod.mk.inj answered).1⟩
      · intro given
        obtain ⟨fits, rfl⟩ := given
        obtain ⟨finish, answered, _⟩ := exists_on_readBag made fits
        exact ⟨finish, answered⟩
  | error failure =>
      cases failure with
      | rejected error =>
          obtain ⟨reversed, played⟩ := exists_on_readBag_of_rejected console desk made
          have words := (Bag.arising_ofText expression error made).2
          have settled : Settled (.error (.rejected error) : Except Failure Bag) :=
            settled_error_iff.mpr ⟨error, rfl, words⟩
          simp only [played, settled, true_and, reduceCtorEq, false_imp_iff, implies_true, Except.error.injEq,
            Failure.rejected.injEq, forall_eq']
          cases console.takes (errorEvent expression error) with
          | false => simp
          | true => simp [Except.toOption, eq_comm]
      | _ =>
          refine iff_of_false ?_ (by simp [settled_error_iff])
          rintro ⟨_, thrown⟩
          rw [readBag_of_failure made (by simp)] at thrown
          cases thrown

/-- Reading an expression gives its bag or rejects the expression exactly when no numeral is overlong, no drop is
outsized and no remark that is kept is too long. In a session it then gives the bag or nothing, unless the console
refuses the report of a rejected expression. -/
theorem readBag_answers_iff (console : Console) (expression : Text) (desk : Desk State) :
    (Settled ((Bag.read expression).on desk).1 ↔ Bag.Answerable expression desk.journal) ∧
      (∀ found, (∃ finish, (readBag console expression).on desk = (.ok found, finish)) ↔
        Bag.Answerable expression desk.journal ∧ found = (Bag.ofText expression).toOption ∧
          ∀ error, Bag.ofText expression = .error (.rejected error) →
            console.takes (errorEvent expression error) = true) ∧
      ∀ error, Bag.ofText expression = .error (.rejected error) →
        console.takes (errorEvent expression error) = false →
          ((readBag console expression).on desk).1 = .error .unshowable := by
  refine ⟨Bag.settled_read_iff expression desk, fun found => ?_, fun error failed refused => ?_⟩
  · rw [exists_readBag_iff, Bag.settled_read_iff]
  · obtain ⟨reversed, played⟩ := exists_on_readBag_of_rejected console desk failed
    rw [played, refused]
    rfl

/-- A zero of too many digits, dice that lose one on each side and are too many still, and a rejected expression that
closes a style. -/
theorem readBag_unanswered_overlong_outsized :
    let zeros : Text := List.replicate (Numeral.digitLimit + 1) '0'
    let dice : Text := Text.of "9223372036854775810d1dl1dh1"
    let tag : Text := Text.of "2d6[/b]"
    let desk : Desk Unit := { source := () }
    (Bag.ofText zeros = .error (.numeralTooLong (Numeral.digitLimit + 1)) ∧
      ((readBag .matching zeros).on desk).1 = .error (.numeralTooLong (Numeral.digitLimit + 1))) ∧
      (Bag.ofText dice = .error .tooManyPositions ∧
        ((readBag .matching dice).on desk).1 = .error .tooManyPositions) ∧
      (∃ error, Bag.ofText tag = .error (.rejected error)) ∧
        ((readBag .matching tag).on desk).1 = .error .unshowable := by
  intro zeros dice tag desk
  have overlong : Bag.ofText zeros = .error (.numeralTooLong (Numeral.digitLimit + 1)) := by
    have digits : ∀ char ∈ zeros, '0' ≤ char ∧ char ≤ '9' := by
      intro char member
      obtain rfl := List.eq_of_mem_replicate member
      decide
    have length : zeros.length = Numeral.digitLimit + 1 := List.length_replicate
    rw [← length]
    exact Bag.ofText_of_overlong_digits digits (by omega)
  have outsized : Bag.ofText dice = .error .tooManyPositions := by decide +kernel
  refine ⟨⟨overlong, ?_⟩, ⟨outsized, ?_⟩, ?_, ?_⟩
  · rw [readBag_of_failure overlong (by simp)]
  · rw [readBag_of_failure outsized (by simp)]
  · exact ⟨.invalidCharacter ['['], by decide +kernel⟩
  · decide +kernel

end Session
end DiceNotation
