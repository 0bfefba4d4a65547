import DiceNotation.Proofs.Notation.Modifiers

/-!
# Recognising groups

A piece of an expression is searched, cut and matched from several sides. On pieces over the alphabet the outcome
is that of the grammar: a numeral, or a count, a size, modifiers and a mark that follow one another.
-/

set_option autoImplicit false

namespace DiceNotation

open Notation

/-! ## Characters of a group -/

/-- A character that can stand in a group: the mark, a digit or a letter of a code. -/
def Notation.IsGroupCharacter (char : Char) : Prop :=
  char = '!' ∨ IsModifierCharacter char

theorem Notation.IsGroupCharacter.not_sign {char : Char} (own : IsGroupCharacter char) :
    Sign.ofChar? char = none := by
  rcases own with rfl | own
  · rfl
  · exact own.not_sign

theorem Notation.IsGroupCharacter.allowed {char : Char} (own : IsGroupCharacter char) :
    char ∈ allowedCharacters := by
  rcases own with rfl | own
  · decide
  · exact own.allowed

theorem Notation.isGroupCharacter_of_allowed {char : Char} (allowed : char ∈ allowedCharacters)
    (unsigned : Sign.ofChar? char = none) : IsGroupCharacter char := by
  rcases sign_or_mark_or_modifierCharacter char allowed with sign | mark | own
  · rw [unsigned] at sign
    cases sign
  · exact .inl mark
  · exact .inr own

namespace Grammar

theorem WritesCount.modifierCharacters {text : Text} {count : Nat} (written : WritesCount text count) :
    ∀ char ∈ text, IsModifierCharacter char := by
  cases written with
  | one => simp
  | numeral valid => exact valid.modifierCharacters

theorem WritesCount.isDecimal {text : Text} {count : Nat} (written : WritesCount text count) :
    ∀ char ∈ text, Text.isDecimal char = true := by
  cases written with
  | one => simp
  | numeral valid => exact valid.isDecimal

theorem WritesCount.read {text : Text} {count : Nat} (written : WritesCount text count) :
    Token.countOfText text = .ok count := by
  cases written with
  | one => rfl
  | numeral valid =>
      rw [Token.countOfText, if_neg (by simpa using valid.nonempty)]
      exact valid.read

theorem writesCount_of_read {text : Text} {count : Nat}
    (own : ∀ char ∈ text, IsModifierCharacter char)
    (decimal : ∀ char ∈ text, Text.isDecimal char = true)
    (read : Token.countOfText text = .ok count) :
    WritesCount text count := by
  cases text with
  | nil =>
      cases read
      exact .one
  | cons digit text =>
      obtain ⟨valid, rfl⟩ := isNumeral_of_read (by simp) own decimal read
      exact .numeral valid

theorem WritesGroup.nonempty {text : Text} {body : TokenBody} (written : WritesGroup text body) :
    text ≠ [] := by
  cases written with
  | bonus valid => exact valid.nonempty
  | dice _ _ _ _ _ => simp

theorem WritesGroup.groupCharacters {text : Text} {body : TokenBody}
    (written : WritesGroup text body) : ∀ char ∈ text, IsGroupCharacter char := by
  cases written with
  | bonus valid => exact fun char member => .inr (valid.modifierCharacters char member)
  | dice count size _ modifiers mark =>
      intro char member
      simp only [List.mem_append, List.mem_singleton] at member
      rcases member with (((early | rfl) | digit) | later) | last
      · exact .inr (count.modifierCharacters char early)
      · exact .inr (by decide)
      · exact .inr (size.modifierCharacters char digit)
      · exact .inr (modifiers.modifierCharacters char later)
      · cases mark with
        | absent => cases last
        | present => exact .inl (by simpa using last)

end Grammar

namespace Token

/-! ## Base and mark -/

theorem splitBase?_eq_some {text countText sizeText rest : Text}
    (found : splitBase? text = some (countText, sizeText, rest)) :
    text = countText ++ 'd' :: (sizeText ++ rest) ∧ sizeText ≠ [] ∧
      (∀ char ∈ countText, Text.isDecimal char = true) ∧
      (∀ char ∈ sizeText, Text.isDecimal char = true) ∧
      Text.StartsOutside Text.isDecimal rest := by
  unfold splitBase? at found
  split at found
  · next behind dropped =>
      split at found
      · next digit =>
          cases found
          refine ⟨?_, ?_, fun char => List.all_eq_true.mp List.all_takeWhile char,
            fun char => List.all_eq_true.mp List.all_takeWhile char,
            Text.startsOutside_dropWhile behind⟩
          · rw [List.takeWhile_append_dropWhile, ← dropped, List.takeWhile_append_dropWhile]
          · cases behind with
            | nil => cases digit
            | cons char behind =>
                have decimal : Text.isDecimal char = true := digit
                simp [decimal]
      · cases found
  · cases found

theorem splitBase?_append {countText sizeText rest : Text}
    (countDigits : ∀ char ∈ countText, Text.isDecimal char = true)
    (sizeNonempty : sizeText ≠ []) (sizeDigits : ∀ char ∈ sizeText, Text.isDecimal char = true)
    (ended : Text.StartsOutside Text.isDecimal rest) :
    splitBase? (countText ++ 'd' :: (sizeText ++ rest)) = some (countText, sizeText, rest) := by
  have marker : Text.StartsOutside Text.isDecimal ('d' :: (sizeText ++ rest)) :=
    Text.startsOutside_cons.mpr (by decide)
  have digit : (sizeText ++ rest).head?.any Text.isDecimal = true := by
    cases sizeText with
    | nil => exact absurd rfl sizeNonempty
    | cons char sizeText => exact sizeDigits char List.mem_cons_self
  unfold splitBase?
  rw [Text.dropWhile_append countDigits marker, Text.takeWhile_append countDigits marker]
  simp only [digit, if_true, Text.takeWhile_append sizeDigits ended,
    Text.dropWhile_append sizeDigits ended]

/-- The text in front of the mark, with the mark or without it. -/
theorem exists_mark (text : Text) :
    ∃ mark, Grammar.WritesMark mark (text.getLast? == some '!') ∧
      (if text.getLast? == some '!' then text.dropLast else text) ++ mark = text := by
  by_cases marked : text.getLast? = some '!'
  · refine ⟨['!'], ?_, ?_⟩
    · simpa [marked] using Grammar.WritesMark.present
    · simpa [marked] using List.dropLast_append_getLast? '!' marked
  · refine ⟨[], ?_, by simp [marked]⟩
    have unmarked : (text.getLast? == some '!') = false := by simpa using marked
    simpa [unmarked] using Grammar.WritesMark.absent

theorem getLast?_append_mark {base mark : Text} {explosive : Bool} (plain : '!' ∉ base)
    (written : Grammar.WritesMark mark explosive) :
    ((base ++ mark).getLast? == some '!') = explosive ∧
      (if explosive then (base ++ mark).dropLast else base ++ mark) = base := by
  cases written with
  | present => simp
  | absent =>
      refine ⟨?_, by simp⟩
      simp only [List.append_nil, beq_eq_false_iff_ne]
      intro last
      exact plain (List.mem_of_getLast? last)

/-! ## Dice -/

/-- The shape of dice: the digits of a count, the digits of a size, what follows them, and the mark. -/
structure SplitsAs (text countText sizeText rest : Text) (explosive : Bool) : Prop where
  whole : ∃ mark, Grammar.WritesMark mark explosive ∧ countText ++ 'd' :: (sizeText ++ rest) ++ mark = text
  count : ∀ char ∈ countText, Text.isDecimal char = true
  nonempty : sizeText ≠ []
  size : ∀ char ∈ sizeText, Text.isDecimal char = true
  ended : Text.StartsOutside Text.isDecimal rest
  plain : '!' ∉ rest

private theorem SplitsAs.unmarked {text countText sizeText rest : Text} {explosive : Bool}
    (splits : SplitsAs text countText sizeText rest explosive) :
    '!' ∉ countText ++ 'd' :: (sizeText ++ rest) := by
  intro member
  simp only [List.mem_append, List.mem_cons] at member
  rcases member with early | same | digit | later
  · exact absurd (splits.count _ early) (by decide)
  · cases same
  · exact absurd (splits.size _ digit) (by decide)
  · exact splits.plain later

/-- In front of the mark only digits and letters of codes stand. -/
theorem SplitsAs.own {text countText sizeText rest : Text} {explosive : Bool}
    (splits : SplitsAs text countText sizeText rest explosive) (own : ∀ char ∈ text, IsGroupCharacter char) :
    ∀ char ∈ countText ++ 'd' :: (sizeText ++ rest), IsModifierCharacter char := by
  obtain ⟨mark, _, rfl⟩ := splits.whole
  intro char member
  rcases own char (List.mem_append_left mark member) with rfl | own
  · exact absurd member splits.unmarked
  · exact own

theorem SplitsAs.diceOfText {text countText sizeText rest : Text} {explosive : Bool}
    (splits : SplitsAs text countText sizeText rest explosive) :
    diceOfText text = (do
      let count ← countOfText countText
      let size ← Numeral.read sizeText
      if size < 1 then
        reject (.invalidSize size)
      else do
        let modifiers ← Modifier.listOfText rest
        return .dice count size explosive modifiers) := by
  obtain ⟨mark, marked, rfl⟩ := splits.whole
  -- No mark stands in front of the last character, so taking one off the end loses nothing else.
  have plain := splits.unmarked
  obtain ⟨same, base⟩ := getLast?_append_mark plain marked
  have parts := splitBase?_append splits.count splits.nonempty splits.size splits.ended
  unfold Token.diceOfText
  simp only [same, base, List.contains_iff_mem, plain, if_false, parts]

theorem exists_splitsAs_or (text : Text) :
    (∃ countText sizeText rest explosive, SplitsAs text countText sizeText rest explosive) ∨
      diceOfText text = reject (.misplacedExplosion text) ∨ diceOfText text = reject (.malformedBase text) := by
  obtain ⟨mark, marked, whole⟩ := exists_mark text
  unfold diceOfText
  simp only
  generalize (text.getLast? == some '!') = explosive at marked whole ⊢
  generalize (if explosive then text.dropLast else text) = base at whole ⊢
  by_cases misplaced : base.contains '!' = true
  · exact .inr (.inl (if_pos misplaced))
  · rw [if_neg misplaced]
    cases found : splitBase? base with
    | none => exact .inr (.inr rfl)
    | some parts =>
        obtain ⟨countText, sizeText, rest⟩ := parts
        obtain ⟨rfl, nonempty, countDigits, sizeDigits, ended⟩ := splitBase?_eq_some found
        refine .inl ⟨countText, sizeText, rest, explosive, ⟨mark, marked, whole⟩, countDigits, nonempty,
          sizeDigits, ended, fun member => misplaced ?_⟩
        exact List.contains_iff_mem.mpr (by simp [member])

theorem writes_of_diceOfText {text : Text} {body : TokenBody}
    (own : ∀ char ∈ text, IsGroupCharacter char) (read : diceOfText text = .ok body) :
    Grammar.WritesGroup text body := by
  rcases exists_splitsAs_or text with ⟨countText, sizeText, rest, explosive, splits⟩ | rejected | rejected
  · rw [splits.diceOfText] at read
    simp only [bind_eq_ok_iff] at read
    obtain ⟨count, countRead, size, sizeRead, read⟩ := read
    have baseOwn := splits.own own
    have countWritten := Grammar.writesCount_of_read
      (fun char member => baseOwn char (by simp [member])) splits.count countRead
    obtain ⟨sizeValid, rfl⟩ := Grammar.isNumeral_of_read splits.nonempty
      (fun char member => baseOwn char (by simp [member])) splits.size sizeRead
    split at read
    · exact absurd read reject_ne_ok
    next positive =>
    simp only [bind_eq_ok_iff, pure_eq_ok_iff] at read
    obtain ⟨modifiers, modifiersRead, rfl⟩ := read
    have modifiersWritten := Modifier.writes_of_listOfText
      (fun char member => baseOwn char (by simp [member])) splits.ended modifiersRead
    obtain ⟨mark, marked, whole⟩ := splits.whole
    have written := Grammar.WritesGroup.dice countWritten sizeValid (by omega) modifiersWritten marked
    rw [← whole]
    simpa using written
  · exact absurd (rejected ▸ read) reject_ne_ok
  · exact absurd (rejected ▸ read) reject_ne_ok

theorem splitsAs_of_writes {countText sizeText modifierText markText : Text} {count : Nat}
    {explosive : Bool} {modifiers : List Modifier}
    (countWritten : Grammar.WritesCount countText count) (sizeValid : Grammar.IsNumeral sizeText)
    (modifiersWritten : Grammar.WritesModifiers modifierText modifiers)
    (marked : Grammar.WritesMark markText explosive) :
    SplitsAs (countText ++ 'd' :: (sizeText ++ modifierText) ++ markText) countText sizeText modifierText
      explosive where
  whole := ⟨markText, marked, rfl⟩
  count := countWritten.isDecimal
  nonempty := sizeValid.nonempty
  size := sizeValid.isDecimal
  ended := modifiersWritten.startsOutside
  plain member := (modifiersWritten.modifierCharacters _ member).ne_mark rfl

theorem diceOfText_of_writes {countText sizeText modifierText markText : Text} {count : Nat}
    {explosive : Bool} {modifiers : List Modifier}
    (countWritten : Grammar.WritesCount countText count) (sizeValid : Grammar.IsNumeral sizeText)
    (positive : 1 ≤ Numeral.value sizeText)
    (modifiersWritten : Grammar.WritesModifiers modifierText modifiers)
    (marked : Grammar.WritesMark markText explosive) :
    diceOfText (countText ++ 'd' :: (sizeText ++ modifierText) ++ markText) =
      .ok (.dice count (Numeral.value sizeText) explosive modifiers) := by
  have splits := splitsAs_of_writes countWritten sizeValid modifiersWritten marked
  rw [splits.diceOfText, countWritten.read, sizeValid.read, Modifier.listOfText_of_writes modifiersWritten]
  simp only [ok_bind]
  rw [if_neg (by omega), pure_eq_ok]

/-! ## Groups -/

theorem isNumeral_eq_true_iff {text : Text} :
    isNumeral text = true ↔ text ≠ [] ∧ ∀ char ∈ text, Text.isDecimal char = true := by
  simp [isNumeral]

private theorem namesDice_append {sizeText rest : Text} (nonempty : sizeText ≠ [])
    (digits : ∀ char ∈ sizeText, Text.isDecimal char = true) (early : Text) :
    namesDice (early ++ 'd' :: (sizeText ++ rest)) = true := by
  induction early with
  | nil =>
      cases sizeText with
      | nil => exact absurd rfl nonempty
      | cons digit sizeText => simp [namesDice, digits digit List.mem_cons_self]
  | cons char early ih => simp [namesDice, ih]

theorem SplitsAs.bodyOfText {text countText sizeText rest : Text} {explosive : Bool}
    (splits : SplitsAs text countText sizeText rest explosive) : bodyOfText text = Token.diceOfText text := by
  obtain ⟨mark, _, whole⟩ := splits.whole
  have letter : isNumeral text ≠ true := by
    intro numeral
    have digits := (isNumeral_eq_true_iff.mp numeral).2 'd' (by simp [← whole])
    exact absurd digits (by decide)
  have named : namesDice text = true := by
    rw [← whole, List.append_assoc, List.cons_append, List.append_assoc]
    exact namesDice_append splits.nonempty splits.size countText
  rw [Token.bodyOfText, if_neg letter, if_pos named]

theorem bodyOfText_eq_ok_iff_writes {text : Text} {body : TokenBody}
    (own : ∀ char ∈ text, IsGroupCharacter char) :
    bodyOfText text = .ok body ↔ Grammar.WritesGroup text body := by
  constructor
  · intro read
    unfold bodyOfText at read
    split at read
    · next numeral =>
        obtain ⟨nonempty, digits⟩ := isNumeral_eq_true_iff.mp numeral
        simp only [bind_eq_ok_iff, pure_eq_ok_iff] at read
        obtain ⟨number, numberRead, rfl⟩ := read
        have plain : ∀ char ∈ text, IsModifierCharacter char := by
          intro char member
          rcases own char member with rfl | own
          · exact absurd (digits '!' member) (by decide)
          · exact own
        obtain ⟨valid, rfl⟩ := Grammar.isNumeral_of_read nonempty plain digits numberRead
        exact .bonus valid
    · split at read
      · exact writes_of_diceOfText own read
      · split at read <;> exact absurd read reject_ne_ok
  · intro written
    cases written with
    | bonus valid =>
        rw [bodyOfText, if_pos (isNumeral_eq_true_iff.mpr ⟨valid.nonempty, valid.isDecimal⟩), valid.read]
        rfl
    | @dice countText sizeText modifierText markText count explosive modifiers countWritten
        sizeValid positive modifiersWritten marked =>
        have shape : countText ++ ['d'] ++ sizeText ++ modifierText ++ markText =
            countText ++ 'd' :: (sizeText ++ modifierText) ++ markText := by simp
        rw [shape, (splitsAs_of_writes countWritten sizeValid modifiersWritten marked).bodyOfText]
        exact diceOfText_of_writes countWritten sizeValid positive modifiersWritten marked

end Token
end DiceNotation
