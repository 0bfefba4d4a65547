import DiceNotation.Proofs.Notation.Groups

/-!
# Recognising expressions

A clean text is cut at its signs and every piece is taken apart by itself. The outcome is that of the grammar, and
the tokens with their signs spell the text they come from.
-/

set_option autoImplicit false

namespace DiceNotation

open Notation

/-! ## Cutting at signs -/

namespace Notation

/-- Pieces with their signs, one after the other. -/
def spelledPieces (pieces : List (Sign × Text)) : Text :=
  pieces.flatMap fun piece => piece.1.symbol :: piece.2

/-- A text without signs. -/
def Unsigned (text : Text) : Prop :=
  ∀ char ∈ text, Sign.ofChar? char = none

theorem cutAtSigns_cons_symbol (sign : Sign) (rest : Text) :
    cutAtSigns (sign.symbol :: rest) =
      ([], (sign, (cutAtSigns rest).1) :: (cutAtSigns rest).2) := by
  simp only [cutAtSigns, List.foldr_cons, Sign.ofChar?_symbol]

theorem cutAtSigns_append {piece : Text} (unsigned : Unsigned piece) (rest : Text) :
    cutAtSigns (piece ++ rest) = (piece ++ (cutAtSigns rest).1, (cutAtSigns rest).2) := by
  induction piece with
  | nil => rfl
  | cons char piece ih =>
      have later := ih fun other member => unsigned other (List.mem_cons_of_mem _ member)
      have head := unsigned char List.mem_cons_self
      simp only [cutAtSigns, List.cons_append, List.foldr_cons, head] at later ⊢
      rw [later]

theorem cutAtSigns_spelled (text : Text) :
    (cutAtSigns text).1 ++ spelledPieces (cutAtSigns text).2 = text ∧
      Unsigned (cutAtSigns text).1 ∧ ∀ piece ∈ (cutAtSigns text).2, Unsigned piece.2 := by
  induction text with
  | nil => simp [cutAtSigns, spelledPieces, Unsigned]
  | cons char rest ih =>
      obtain ⟨same, first, later⟩ := ih
      cases found : Sign.ofChar? char with
      | some sign =>
          obtain rfl := Sign.ofChar?_eq_some_iff.mp found
          rw [cutAtSigns_cons_symbol]
          refine ⟨by simpa [spelledPieces] using same, by simp [Unsigned], ?_⟩
          intro piece member
          rcases List.mem_cons.mp member with rfl | member
          · exact first
          · exact later piece member
      | none =>
          have single : Unsigned [char] := by simpa [Unsigned] using found
          have cut := cutAtSigns_append single rest
          rw [List.singleton_append] at cut
          rw [cut]
          refine ⟨by simpa using same, ?_, later⟩
          intro other member
          rcases List.mem_cons.mp member with rfl | member
          · exact found
          · exact first other member

theorem signedPieces_eq_ok_iff {text : Text} {pieces : List (Sign × Text)} :
    signedPieces text = .ok pieces ↔
      (∀ piece ∈ pieces, piece.2 ≠ []) ∧
        (.plus, (cutAtSigns text).1) :: (cutAtSigns text).2 = pieces := by
  unfold signedPieces
  simp only
  split
  · next empty =>
      simp only [reject_ne_ok, false_iff]
      intro given
      obtain ⟨nonempty, rfl⟩ := given
      obtain ⟨piece, member, bare⟩ := List.any_eq_true.mp empty
      exact nonempty piece member (List.isEmpty_iff.mp bare)
  · next full =>
      simp only [Except.ok.injEq]
      constructor
      · rintro rfl
        refine ⟨?_, rfl⟩
        intro piece member bare
        exact full (List.any_eq_true.mpr ⟨piece, member, List.isEmpty_iff.mpr bare⟩)
      · exact And.right

end Notation

/-! ## Tokens -/

namespace Token

/-- Tokens with their signs, one after the other. -/
def spelledLater (tokens : List Token) : Text :=
  tokens.flatMap fun token => token.sign.symbol :: token.text

/-- The tokens of an expression as they are written, the first one without its sign. -/
def spelled : List Token → Text
  | [] => []
  | first :: later => first.text ++ spelledLater later

theorem ofPiece_eq_ok_iff {sign : Sign} {text : Text} {token : Token} :
    ofPiece sign text = .ok token ↔
      token.sign = sign ∧ token.text = text ∧ bodyOfText text = .ok token.body := by
  simp only [ofPiece, bind_eq_ok_iff, pure_eq_ok_iff]
  constructor
  · intro given
    obtain ⟨body, read, rfl⟩ := given
    exact ⟨rfl, rfl, read⟩
  · intro given
    obtain ⟨rfl, rfl, read⟩ := given
    exact ⟨token.body, read, rfl⟩

end Token

namespace Grammar

theorem WritesLater.spelled {text : Text} {tokens : List Token}
    (written : WritesLater text tokens) : Token.spelledLater tokens = text := by
  induction written with
  | nil => rfl
  | cons _ _ ih => simpa [Token.spelledLater] using ih

theorem Writes.spelled {text : Text} {tokens : List Token} (written : Writes text tokens) :
    Token.spelled tokens = text := by
  cases written with
  | groups _ later => rw [Token.spelled, later.spelled]

theorem WritesLater.allowed {text : Text} {tokens : List Token}
    (written : WritesLater text tokens) : ∀ char ∈ text, char ∈ allowedCharacters := by
  induction written with
  | nil => simp
  | @cons sign text rest body tokens group _ ih =>
      intro char member
      rcases List.mem_cons.mp member with rfl | member
      · cases sign <;> decide
      · rcases List.mem_append.mp member with own | later
        · exact (group.groupCharacters char own).allowed
        · exact ih char later

theorem Writes.allowed {text : Text} {tokens : List Token} (written : Writes text tokens) :
    ∀ char ∈ text, char ∈ allowedCharacters := by
  cases written with
  | groups group later =>
      intro char member
      rcases List.mem_append.mp member with own | rest
      · exact (group.groupCharacters char own).allowed
      · exact later.allowed char rest

/-- The later tokens of an expression are the pieces that the cut gives back. -/
theorem WritesLater.cutAtSigns {text : Text} {tokens : List Token}
    (written : WritesLater text tokens) :
    cutAtSigns text = ([], tokens.map fun token => (token.sign, token.text)) := by
  induction written with
  | nil => rfl
  | @cons sign text rest body tokens group _ ih =>
      have unsigned : Unsigned text := fun char member => (group.groupCharacters char member).not_sign
      rw [cutAtSigns_cons_symbol, cutAtSigns_append unsigned, ih]
      simp

theorem WritesLater.group {text : Text} {tokens : List Token} (written : WritesLater text tokens) :
    ∀ token ∈ tokens, WritesGroup token.text token.body := by
  induction written with
  | nil => simp
  | cons group _ ih => simpa using ⟨group, ih⟩

theorem writesLater_of_forall {tokens : List Token}
    (groups : ∀ token ∈ tokens, WritesGroup token.text token.body) :
    WritesLater (Token.spelledLater tokens) tokens := by
  induction tokens with
  | nil => exact .nil
  | cons token tokens ih =>
      have later := ih fun other member => groups other (List.mem_cons_of_mem _ member)
      have written : WritesLater (token.sign.symbol :: (token.text ++ Token.spelledLater tokens))
          (token :: tokens) := .cons (groups token List.mem_cons_self) later
      simpa [Token.spelledLater] using written

/-- An expression is a list of tokens that each stand for their own group, the first one added. -/
theorem writes_iff {text : Text} {tokens : List Token} :
    Writes text tokens ↔
      (∃ first later, tokens = first :: later ∧ first.sign = .plus) ∧
        (∀ token ∈ tokens, WritesGroup token.text token.body) ∧ Token.spelled tokens = text := by
  constructor
  · intro written
    refine ⟨?_, ?_, written.spelled⟩
    · cases written with
      | groups _ _ => exact ⟨_, _, rfl, rfl⟩
    · cases written with
      | groups group later => simpa using ⟨group, later.group⟩
  · intro given
    obtain ⟨⟨⟨sign, text, body⟩, later, rfl, rfl⟩, groups, rfl⟩ := given
    exact .groups (groups _ List.mem_cons_self)
      (writesLater_of_forall fun token member => groups token (List.mem_cons_of_mem _ member))

end Grammar

/-! ## Recognition -/

namespace Token

/-- The signed piece that a token was made from. -/
def piece (token : Token) : Sign × Text :=
  (token.sign, token.text)

theorem mapM_ofPiece_eq_ok_iff {pieces : List (Sign × Text)} {tokens : List Token} :
    pieces.mapM (fun (sign, text) => ofPiece sign text) = .ok tokens ↔
      tokens.map piece = pieces ∧ ∀ token ∈ tokens, bodyOfText token.text = .ok token.body := by
  rw [mapM_eq_ok_iff]
  constructor
  · intro related
    induction related with
    | nil => simp
    | cons made _ ih =>
        obtain ⟨sign, text, read⟩ := ofPiece_eq_ok_iff.mp made
        obtain ⟨rest, bodies⟩ := ih
        refine ⟨by rw [List.map_cons, rest, piece, sign, text], ?_⟩
        intro token member
        rcases List.mem_cons.mp member with rfl | member
        · rw [text]
          exact read
        · exact bodies token member
  · intro given
    obtain ⟨rfl, bodies⟩ := given
    induction tokens with
    | nil => exact .nil
    | cons token tokens ih =>
        have made := ofPiece_eq_ok_iff.mpr ⟨rfl, rfl, bodies token List.mem_cons_self⟩
        exact .cons made (ih fun other member => bodies other (List.mem_cons_of_mem _ member))

theorem spelledPieces_map_piece (tokens : List Token) :
    spelledPieces (tokens.map piece) = spelledLater tokens := by
  rw [spelledPieces, spelledLater, List.flatMap_map]
  rfl

private theorem mem_spelled {tokens : List Token} {token : Token} (member : token ∈ tokens) :
    ∀ char ∈ token.text, char ∈ spelled tokens := by
  intro char present
  cases tokens with
  | nil => cases member
  | cons first later =>
      rcases List.mem_cons.mp member with rfl | member
      · exact List.mem_append_left _ present
      · refine List.mem_append_right _ (List.mem_flatMap.mpr ⟨token, member, ?_⟩)
        exact List.mem_cons_of_mem _ present

/-- Tokens made from the pieces of a cut spell the text that was cut, and none of them has a sign in it. -/
private theorem spelled_of_pieces {text : Text} {tokens : List Token}
    (same : tokens.map piece = (.plus, (cutAtSigns text).1) :: (cutAtSigns text).2) :
    spelled tokens = text ∧ (∃ first later, tokens = first :: later ∧ first.sign = .plus) ∧
      ∀ token ∈ tokens, Unsigned token.text := by
  obtain ⟨whole, firstUnsigned, laterUnsigned⟩ := cutAtSigns_spelled text
  cases tokens with
  | nil => cases same
  | cons token tokens =>
      rw [List.map_cons, List.cons.injEq] at same
      obtain ⟨firstSame, laterSame⟩ := same
      obtain ⟨firstSign, firstText⟩ := Prod.mk.inj firstSame
      refine ⟨?_, ⟨token, tokens, rfl, firstSign⟩, ?_⟩
      · rw [spelled, firstText, ← spelledPieces_map_piece, laterSame, whole]
      · intro other member
        rcases List.mem_cons.mp member with rfl | member
        · rw [firstText]
          exact firstUnsigned
        · refine laterUnsigned other.piece ?_
          rw [← laterSame]
          exact List.mem_map_of_mem member

theorem writes_of_listOfText {text : Text} {tokens : List Token}
    (read : listOfText text = .ok tokens) : Grammar.Writes (cleaned text) tokens := by
  simp only [listOfText, bind_eq_ok_iff, signedPieces_eq_ok_iff] at read
  obtain ⟨⟨⟩, checked, pieces, ⟨_, rfl⟩, made⟩ := read
  obtain ⟨same, bodies⟩ := mapM_ofPiece_eq_ok_iff.mp made
  obtain ⟨spelledSame, first, unsigned⟩ := spelled_of_pieces same
  have allowed := checkCharacters_eq_ok_iff.mp checked
  refine Grammar.writes_iff.mpr ⟨first, ?_, spelledSame⟩
  intro token member
  refine (bodyOfText_eq_ok_iff_writes ?_).mp (bodies token member)
  intro char present
  have inside := mem_spelled member char present
  rw [spelledSame] at inside
  exact isGroupCharacter_of_allowed (allowed char inside) (unsigned token member char present)

theorem listOfText_of_writes {text : Text} {tokens : List Token}
    (written : Grammar.Writes (cleaned text) tokens) : listOfText text = .ok tokens := by
  have checked := checkCharacters_eq_ok_iff.mpr written.allowed
  obtain ⟨_, groups, _⟩ := Grammar.writes_iff.mp written
  have bodies : ∀ token ∈ tokens, bodyOfText token.text = .ok token.body := fun token member =>
    (bodyOfText_eq_ok_iff_writes (groups token member).groupCharacters).mpr (groups token member)
  have pieces : signedPieces (cleaned text) = .ok (tokens.map piece) := by
    refine signedPieces_eq_ok_iff.mpr ⟨?_, ?_⟩
    · intro signed member
      obtain ⟨token, present, rfl⟩ := List.mem_map.mp member
      exact (groups token present).nonempty
    · generalize cleaned text = clean at written
      cases written with
      | @groups text rest body tokens group later =>
          have unsigned : Unsigned text := fun char member =>
            (group.groupCharacters char member).not_sign
          rw [cutAtSigns_append unsigned, later.cutAtSigns, List.append_nil]
          rfl
  simp only [listOfText, bind_eq_ok_iff]
  exact ⟨(), checked, _, pieces, mapM_ofPiece_eq_ok_iff.mpr ⟨rfl, bodies⟩⟩

/-- Reading accepts exactly the expressions of the grammar, each with the tokens of its derivation, and the
tokens spell the whole clean text. -/
theorem listOfText_eq_ok_iff_writes_and_spelled (text : Text) :
    (∀ tokens, listOfText text = .ok tokens ↔ Grammar.Writes (cleaned text) tokens) ∧
      ∀ tokens, listOfText text = .ok tokens → spelled tokens = cleaned text := by
  refine ⟨fun tokens => ⟨writes_of_listOfText, listOfText_of_writes⟩, ?_⟩
  intro tokens read
  exact (writes_of_listOfText read).spelled

/-- Four exploding dice without their lowest roll, less a bonus of two. -/
theorem writes_and_spelled_drop_less_bonus :
    let text := Text.of "4D6 dl1! - 02"
    let tokens : List Token :=
      [⟨.plus, Text.of "4d6dl1!", .dice 4 6 true [⟨.dropLowest, 1⟩]⟩,
        ⟨.minus, Text.of "02", .bonus 2⟩]
    Grammar.Writes (cleaned text) tokens ∧ spelled tokens = cleaned text := by
  intro text tokens
  have read : listOfText text = .ok tokens := by decide +kernel
  obtain ⟨accepts, spells⟩ := listOfText_eq_ok_iff_writes_and_spelled text
  exact ⟨(accepts tokens).mp read, spells tokens read⟩

end Token

end DiceNotation
