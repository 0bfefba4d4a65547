import DiceNotation.Console.Display
import DiceNotation.Proofs.Notation.Numerals
import DiceNotation.Proofs.Outcome

/-!
# What the library shows is ordinary

The tags of texts put together are those of the first and then those of the second, unless a tag stands across both.
Numbers and the expressions of bags have no tags, so the only tags in a range, a roll or a distribution are those
that the library writes itself, and every console takes them. Only a rejected expression can bring tags of its own.
-/

set_option autoImplicit false

namespace DiceNotation

/-! ## Tags of texts put together -/

namespace Markup

variable {first second text : Text} {tags later : List Text} {colons more : Nat}

theorem scan_append (within : Option Text) (first second : Text) :
    scan within (first ++ second) =
      ((scan within first).1 ++ (scan (scan within first).2 second).1, (scan (scan within first).2 second).2) := by
  induction first generalizing within with
  | nil => simp [scan]
  | cons char first ih =>
      cases within with
      | none => simp only [List.cons_append, scan, ih]
      | some tag =>
          simp only [List.cons_append, scan]
          split
          · simp only [ih, List.cons_append]
          · simp only [ih]

/-- A text of common characters with these tags and so many colons, the last tag of which has ended. -/
structure Marks (text : Text) (tags : List Text) (colons : Nat) : Prop where
  common : text.all isCommon = true
  scanned : scan none text = (tags, none)
  colons : text.count ':' = colons

instance : Decidable (Marks text tags colons) :=
  decidable_of_iff (text.all isCommon = true ∧ scan none text = (tags, none) ∧ text.count ':' = colons)
    ⟨fun given => ⟨given.1, given.2.1, given.2.2⟩, fun marks => ⟨marks.common, marks.scanned, marks.colons⟩⟩

theorem Marks.append (front : Marks first tags colons) (back : Marks second later more) :
    Marks (first ++ second) (tags ++ later) (colons + more) where
  common := by rw [List.all_append, front.common, back.common, Bool.and_self]
  scanned := by rw [scan_append, front.scanned, back.scanned]
  colons := by rw [List.count_append, front.colons, back.colons]

/-- A common character that neither begins a tag nor is a colon. -/
def isBare (char : Char) : Bool :=
  isCommon char && char != '[' && char != ':'

theorem isBare_of_isDigit {char : Char} (digit : char.isDigit = true) : isBare char = true := by
  obtain ⟨atLeast, atMost⟩ : '0' ≤ char ∧ char ≤ '9' := by simpa [Char.isDigit, Char.le_def] using digit
  have low : (48 : Nat) ≤ char.toNat := atLeast
  have high : char.toNat ≤ 57 := atMost
  have other : ∀ mark : Char, mark.toNat < 48 ∨ 57 < mark.toNat → char ≠ mark := by
    rintro mark outside rfl
    omega
  have printable : ' ' ≤ char ∧ char ≤ '~' :=
    ⟨Char.le_def.mpr (show (32 : Nat) ≤ char.toNat by omega), Char.le_def.mpr (show char.toNat ≤ 126 by omega)⟩
  simp [isBare, isCommon, printable, other '\\' (by decide), other '[' (by decide), other ':' (by decide)]

theorem marks_of_bare (bare : ∀ char ∈ text, isBare char = true) : Marks text [] 0 := by
  have each : ∀ char ∈ text, (isCommon char = true ∧ char ≠ '[') ∧ char ≠ ':' := by
    intro char member
    simpa [isBare] using bare char member
  refine ⟨List.all_eq_true.mpr fun char member => (each char member).1.1, ?_, ?_⟩
  · clear bare
    induction text with
    | nil => rfl
    | cons char text ih =>
        obtain ⟨own, others⟩ := List.forall_mem_cons.mp each
        rw [scan, if_neg own.1.2]
        exact ih others
  · exact List.count_eq_zero.mpr fun member => (each ':' member).2 rfl

/-- With at most one colon and tags of the library that match, the text is ordinary. -/
theorem Marks.isOrdinary (marks : Marks text tags colons)
    (matched : (decide (colons ≤ 1) && tags.all (fun tag =>
      styles.contains (if tag.head? = some '/' then tag.tail else tag)) && closesOpen [] tags) = true) :
    isOrdinary text = true := by
  have own : Markup.tags text = tags := congrArg Prod.fst marks.scanned
  rw [Markup.isOrdinary, isMatched, own, marks.common, marks.colons, Bool.true_and]
  exact matched

end Markup

/-! ## Texts without tags -/

open Markup

theorem Numeral.isBare_of_mem_digits {number : Nat} : ∀ char ∈ digits number, isBare char = true :=
  fun _ member => Markup.isBare_of_isDigit (isDigit_of_mem_digits member)

/-- A piece is written without tags and colons. -/
def Piece.Bare (piece : Piece) : Prop :=
  ∀ char ∈ piece.write, isBare char = true

instance (piece : Piece) : Decidable piece.Bare :=
  decidable_of_iff (piece.write.all isBare = true) List.all_eq_true

theorem Piece.Bare.marks {piece : Piece} (bare : piece.Bare) : Marks piece.write [] 0 :=
  marks_of_bare bare

theorem Piece.bare_number (value : Int) : (Piece.number value).Bare := by
  cases value with
  | ofNat number => exact Numeral.isBare_of_mem_digits
  | negSucc number => exact List.forall_mem_cons.mpr ⟨by decide, Numeral.isBare_of_mem_digits⟩

theorem Sign.bare_symbol (sign : Sign) : (Piece.word [sign.symbol]).Bare := by
  cases sign <;> decide

/-- All pieces of a phrase are written without tags and colons. -/
def Phrase.Bare (phrase : Phrase) : Prop :=
  ∀ piece ∈ phrase, piece.Bare

namespace Phrase

theorem Bare.forall_mem_text {phrase : Phrase} (bare : phrase.Bare) : ∀ char ∈ phrase.text, isBare char = true := by
  intro char member
  obtain ⟨piece, own, part⟩ := List.mem_flatMap.mp member
  exact bare piece own char part

theorem Bare.marks {phrase : Phrase} (bare : phrase.Bare) : Marks phrase.text [] 0 :=
  marks_of_bare bare.forall_mem_text

theorem Bare.append {first second : Phrase} (front : first.Bare) (back : second.Bare) : (first ++ second).Bare :=
  List.forall_mem_append.mpr ⟨front, back⟩

theorem forall_mem_joined_iff {Holds : Piece → Prop} {separator : Phrase} (held : ∀ piece ∈ separator, Holds piece)
    {phrases : List Phrase} :
    (∀ piece ∈ joined separator phrases, Holds piece) ↔ ∀ phrase ∈ phrases, ∀ piece ∈ phrase, Holds piece := by
  induction phrases with
  | nil => simp [joined]
  | cons first phrases ih =>
      cases phrases with
      | nil => simp [joined]
      | cons second phrases =>
          have shape : joined separator (first :: second :: phrases) =
              first ++ separator ++ joined separator (second :: phrases) := by
            simp [joined, List.intersperse]
          rw [shape, List.forall_mem_append, List.forall_mem_append, ih]
          simp only [List.forall_mem_cons]
          exact ⟨fun given => ⟨given.1.1, given.2⟩, fun given => ⟨⟨given.1, held⟩, given.2⟩⟩

theorem Bare.joined {phrases : List Phrase} (bare : ∀ phrase ∈ phrases, phrase.Bare) :
    (Phrase.joined [.say ", "] phrases).Bare :=
  (forall_mem_joined_iff (List.forall_mem_singleton.mpr (by decide))).mpr bare

end Phrase

theorem Modifier.bare_phrase (modifier : Modifier) : modifier.phrase.Bare := by
  refine List.forall_mem_cons.mpr ⟨?_, List.forall_mem_singleton.mpr (Piece.bare_number _)⟩
  cases modifier.kind <;> decide

theorem Die.bare_phrase (die : Die) : die.phrase.Bare := by
  refine .append (.append ?_ ?_) ?_
  · simp only [Phrase.Bare, List.forall_mem_cons, List.not_mem_nil, false_imp_iff, implies_true, and_true]
    exact ⟨Piece.bare_number _, by decide, Piece.bare_number _⟩
  · intro piece member
    obtain ⟨modifier, _, part⟩ := List.mem_flatMap.mp member
    exact modifier.bare_phrase piece part
  · split
    · exact List.forall_mem_singleton.mpr (by decide)
    · exact fun _ member => nomatch member

theorem Group.bare_phrase (group : Group) : group.phrase.Bare := by
  cases group with
  | bonus flat => exact List.forall_mem_singleton.mpr (Piece.bare_number _)
  | dice die => exact die.bare_phrase

theorem Group.bare_signedPhrase (group : Group) : group.signedPhrase.Bare :=
  List.forall_mem_cons.mpr ⟨group.sign.bare_symbol, group.bare_phrase⟩

theorem Bag.bare_phrase (bag : Bag) : bag.phrase.Bare := by
  unfold phrase
  split
  · exact fun _ member => nomatch member
  · next first later _ =>
      refine .append ?_ fun piece member => ?_
      · split
        · exact first.bare_phrase
        · exact first.bare_signedPhrase
      · obtain ⟨group, _, part⟩ := List.mem_flatMap.mp member
        exact group.bare_signedPhrase piece part

namespace Display

open Piece

theorem isOrdinary_prompt : prompt.isOrdinary = true := by
  decide

variable {bag : Bag}

end Display

end DiceNotation
