import DiceNotation.Proofs.Notation.Expressions
import DiceNotation.Proofs.Settled

/-!
# Overlong numerals

Taking an expression apart fails without rejecting it in one case: a numeral with too many digits is read before
anything is found to be wrong. Which numerals are read before that is said here without the reading.
-/

set_option autoImplicit false

namespace DiceNotation

open Notation

namespace Grammar

/-- Letters and digits take turns, and the first number that cannot be read follows known codes and short numbers
only, and a known code itself. -/
def OverlongModifiers (text : Text) : Prop :=
  ∃ parts, Modifier.TakesTurns text parts ∧
    Reaches (fun part => ∃ kind : ModifierKind, kind.code = part.1 ∧ part.2.length ≤ Numeral.digitLimit)
      (fun part => ∃ kind : ModifierKind, kind.code = part.1 ∧ Numeral.digitLimit < part.2.length) parts

/-- A bonus, a count, a size or the number of a modifier is too long. A modifier is looked at only behind a size
that is not zero. -/
inductive OverlongGroup (text : Text) : Prop where
  | bonus : (∀ char ∈ text, Text.isDecimal char = true) → Numeral.digitLimit < text.length → OverlongGroup text
  | count {countText sizeText rest : Text} {explosive : Bool} :
      Token.SplitsAs text countText sizeText rest explosive → Numeral.digitLimit < countText.length →
      OverlongGroup text
  | size {countText sizeText rest : Text} {explosive : Bool} :
      Token.SplitsAs text countText sizeText rest explosive → Numeral.digitLimit < sizeText.length →
      OverlongGroup text
  | modifiers {countText sizeText rest : Text} {explosive : Bool} :
      Token.SplitsAs text countText sizeText rest explosive → 1 ≤ Numeral.value sizeText →
      OverlongModifiers rest → OverlongGroup text

/-- An overlong group behind groups of the grammar only, in a text over the alphabet without empty pieces. -/
def Overlong (clean : Text) : Prop :=
  (∀ char ∈ clean, char ∈ allowedCharacters) ∧
    ∃ pieces, signedPieces clean = .ok pieces ∧
      Reaches (fun piece => ∃ body, WritesGroup piece.2 body) (fun piece => OverlongGroup piece.2) pieces

end Grammar

/-! ## Modifiers -/

namespace Modifier

theorem exists_ofParts_iff {code numeral : Text} :
    (∃ modifier, ofParts code numeral = .ok modifier) ↔
      ∃ kind : ModifierKind, kind.code = code ∧ numeral.length ≤ Numeral.digitLimit := by
  simp only [ofParts_eq_ok_iff]
  constructor
  · intro given
    obtain ⟨modifier, known, short, _⟩ := given
    exact ⟨modifier.kind, known, short⟩
  · intro given
    obtain ⟨kind, known, short⟩ := given
    exact ⟨⟨kind, Numeral.value numeral⟩, known, short, rfl⟩

theorem settled_ofParts_iff {code numeral : Text} :
    Settled (ofParts code numeral) ↔
      ¬ ∃ kind : ModifierKind, kind.code = code ∧ Numeral.digitLimit < numeral.length := by
  unfold ofParts
  cases found : ModifierKind.ofCode? code with
  | none =>
      refine iff_of_true (settled_reject_of_fits rfl) fun given => ?_
      obtain ⟨kind, rfl, _⟩ := given
      rw [ModifierKind.ofCode?_code] at found
      cases found
  | some kind =>
      simp only [settled_bind_iff, settled_read_iff, settled_pure, implies_true, and_true]
      constructor
      · intro short given
        obtain ⟨_, _, long⟩ := given
        exact Nat.not_le.mpr long short
      · intro given
        exact Nat.not_lt.mp fun long => given ⟨kind, ModifierKind.code_of_ofCode? found, long⟩

theorem TakesTurns.settled_listOfText_iff {text : Text} {parts : List (Text × Text)}
    (turns : TakesTurns text parts) :
    Settled (Modifier.listOfText text) ↔
      ¬ Reaches (fun part => ∃ kind : ModifierKind, kind.code = part.1 ∧ part.2.length ≤ Numeral.digitLimit)
        (fun part => ∃ kind : ModifierKind, kind.code = part.1 ∧ Numeral.digitLimit < part.2.length) parts := by
  rw [turns.listOfText, settled_mapM_iff]
  simp only [exists_ofParts_iff, settled_ofParts_iff, not_not]

theorem settled_listOfText_iff {text : Text} (own : ∀ char ∈ text, IsModifierCharacter char)
    (start : Text.StartsOutside Text.isDecimal text) :
    Settled (listOfText text) ↔ ¬ Grammar.OverlongModifiers text := by
  constructor
  · intro settled overlong
    obtain ⟨parts, turns, reached⟩ := overlong
    exact turns.settled_listOfText_iff.mp settled reached
  · intro short
    rcases takesTurns_or_length_runs_ne own start with ⟨parts, turns⟩ | unequal
    · exact turns.settled_listOfText_iff.mpr fun reached => short ⟨parts, turns, reached⟩
    · rw [listOfText_of_length_runs_ne own start unequal]
      exact settled_reject_of_fits rfl

end Modifier

/-! ## Groups -/

namespace Token

theorem settled_countOfText_iff {text : Text} :
    Settled (countOfText text) ↔ text.length ≤ Numeral.digitLimit := by
  unfold countOfText
  cases text with
  | nil => simp
  | cons digit text => simp [settled_read_iff]

theorem exists_countOfText {text : Text} (short : text.length ≤ Numeral.digitLimit) :
    ∃ count, countOfText text = .ok count := by
  unfold countOfText
  split
  · exact ⟨1, rfl⟩
  · exact ⟨Numeral.value text, Numeral.read_eq_ok_iff.mpr ⟨short, rfl⟩⟩

theorem SplitsAs.settled_iff {text countText sizeText rest : Text} {explosive : Bool}
    (splits : SplitsAs text countText sizeText rest explosive) (own : ∀ char ∈ text, IsGroupCharacter char) :
    Settled (Token.bodyOfText text) ↔
      countText.length ≤ Numeral.digitLimit ∧ sizeText.length ≤ Numeral.digitLimit ∧
        (1 ≤ Numeral.value sizeText → ¬ Grammar.OverlongModifiers rest) := by
  have modifiers := Modifier.settled_listOfText_iff
    (fun char member => splits.own own char (by simp [member])) splits.ended
  rw [splits.bodyOfText, splits.diceOfText]
  simp only [settled_bind_iff, settled_countOfText_iff, settled_read_iff, Numeral.read_eq_ok_iff]
  constructor
  · intro settled
    obtain ⟨countShort, later⟩ := settled
    obtain ⟨count, read⟩ := exists_countOfText countShort
    obtain ⟨sizeShort, later⟩ := later count read
    refine ⟨countShort, sizeShort, fun positive => ?_⟩
    have last := later (Numeral.value sizeText) ⟨sizeShort, rfl⟩
    rw [if_neg (by omega), settled_bind_iff] at last
    exact modifiers.mp last.1
  · intro given
    obtain ⟨countShort, sizeShort, short⟩ := given
    refine ⟨countShort, fun count _ => ⟨sizeShort, fun size sizeRead => ?_⟩⟩
    obtain ⟨_, rfl⟩ := sizeRead
    split
    · next unknown =>
        have zero : Numeral.value sizeText = 0 := by omega
        rw [zero]
        exact settled_reject_of_fits (by decide +kernel)
    · next known =>
        rw [settled_bind_iff]
        exact ⟨modifiers.mpr (short (by omega)), fun _ _ => settled_pure _⟩

theorem settled_bodyOfText_iff {text : Text} (own : ∀ char ∈ text, IsGroupCharacter char) :
    Settled (bodyOfText text) ↔ ¬ Grammar.OverlongGroup text := by
  constructor
  · intro settled overlong
    cases overlong with
    | bonus digits long =>
        have nonempty : text ≠ [] := by
          rintro rfl
          cases long
        rw [bodyOfText, if_pos (isNumeral_eq_true_iff.mpr ⟨nonempty, digits⟩), settled_bind_iff,
          settled_read_iff] at settled
        omega
    | count splits long =>
        have short := ((splits.settled_iff own).mp settled).1
        omega
    | size splits long =>
        have short := ((splits.settled_iff own).mp settled).2.1
        omega
    | modifiers splits positive overlong =>
        exact ((splits.settled_iff own).mp settled).2.2 positive overlong
  · intro short
    rcases exists_splitsAs_or text with ⟨countText, sizeText, rest, explosive, splits⟩ | rejected
    · refine (splits.settled_iff own).mpr ⟨?_, ?_, ?_⟩
      · exact Nat.not_lt.mp fun long => short (.count splits long)
      · exact Nat.not_lt.mp fun long => short (.size splits long)
      · exact fun positive overlong => short (.modifiers splits positive overlong)
    · unfold bodyOfText
      split
      · next numeral =>
          obtain ⟨_, digits⟩ := isNumeral_eq_true_iff.mp numeral
          rw [settled_bind_iff, settled_read_iff]
          exact ⟨Nat.not_lt.mp fun long => short (.bonus digits long), fun _ _ => settled_pure _⟩
      · split
        · rcases rejected with rejected | rejected <;> rw [rejected] <;> exact settled_reject_of_fits rfl
        · split <;> exact settled_reject_of_fits rfl

theorem settled_ofPiece_iff {sign : Sign} {text : Text} :
    Settled (ofPiece sign text) ↔ Settled (bodyOfText text) := by
  simp only [ofPiece, settled_bind_iff, settled_pure, implies_true, and_true]

theorem exists_ofPiece_iff {sign : Sign} {text : Text} :
    (∃ token, ofPiece sign text = .ok token) ↔ ∃ body, bodyOfText text = .ok body := by
  simp only [ofPiece_eq_ok_iff]
  constructor
  · intro given
    obtain ⟨token, _, _, read⟩ := given
    exact ⟨token.body, read⟩
  · intro given
    obtain ⟨body, read⟩ := given
    exact ⟨⟨sign, text, body⟩, rfl, rfl, read⟩

end Token

/-! ## Expressions -/

theorem Notation.settled_checkCharacters (text : Text) : Settled (checkCharacters text) := by
  unfold checkCharacters
  split
  · exact settled_reject_of_fits rfl
  · exact settled_ok _

theorem Notation.settled_signedPieces (text : Text) : Settled (signedPieces text) := by
  unfold signedPieces
  simp only
  split
  · exact settled_reject_of_fits rfl
  · exact settled_ok _

theorem Notation.groupCharacters_of_signedPieces {text : Text} {pieces : List (Sign × Text)}
    (allowed : ∀ char ∈ text, char ∈ allowedCharacters) (cut : signedPieces text = .ok pieces) :
    ∀ piece ∈ pieces, ∀ char ∈ piece.2, IsGroupCharacter char := by
  obtain ⟨_, rfl⟩ := signedPieces_eq_ok_iff.mp cut
  obtain ⟨whole, first, later⟩ := cutAtSigns_spelled text
  intro piece member char present
  rcases List.mem_cons.mp member with rfl | member
  · refine isGroupCharacter_of_allowed (allowed char ?_) (first char present)
    rw [← whole]
    exact List.mem_append_left _ present
  · refine isGroupCharacter_of_allowed (allowed char ?_) (later piece member char present)
    rw [← whole]
    refine List.mem_append_right _ (List.mem_flatMap.mpr ⟨piece, member, ?_⟩)
    exact List.mem_cons_of_mem _ present

/-- Taking an expression apart gives its tokens or rejects it, unless it reads an overlong numeral. -/
theorem Token.settled_listOfText_iff (text : Text) :
    Settled (listOfText text) ↔ ¬ Grammar.Overlong (cleaned text) := by
  have each : ∀ pieces, (∀ char ∈ cleaned text, char ∈ allowedCharacters) →
      signedPieces (cleaned text) = .ok pieces →
        (Settled (pieces.mapM fun piece => ofPiece piece.1 piece.2) ↔
          ¬ Reaches (fun piece => ∃ body, Grammar.WritesGroup piece.2 body)
            (fun piece => Grammar.OverlongGroup piece.2) pieces) := by
    intro pieces allowed cut
    have own := groupCharacters_of_signedPieces allowed cut
    rw [settled_mapM_iff]
    refine not_congr (Reaches.congr (fun piece member => ?_) fun piece member => ?_)
    · rw [exists_ofPiece_iff]
      exact exists_congr fun body => bodyOfText_eq_ok_iff_writes (own piece member)
    · rw [settled_ofPiece_iff, settled_bodyOfText_iff (own piece member), not_not]
  simp only [listOfText, settled_bind_iff, settled_checkCharacters, settled_signedPieces, true_and]
  constructor
  · intro settled overlong
    obtain ⟨allowed, pieces, cut, reached⟩ := overlong
    have read := settled () (checkCharacters_eq_ok_iff.mpr allowed) pieces cut
    exact (each pieces allowed cut).mp read reached
  · intro short _ checked pieces cut
    have allowed := checkCharacters_eq_ok_iff.mp checked
    exact (each pieces allowed cut).mpr fun reached => short ⟨allowed, pieces, cut, reached⟩

end DiceNotation
