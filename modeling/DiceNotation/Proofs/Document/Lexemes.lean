import DiceNotation.Document.Reading
import DiceNotation.Document.Basic
import DiceNotation.Proofs.Notation.Numerals
import DiceNotation.Proofs.Text.Runs

/-!
# Lexemes of written documents

A written document is cut into the lexemes that it was put together from. The one place where two pieces of the text
could run into each other is the end of a number, so that is followed by a mark.
-/

set_option autoImplicit false

namespace DiceNotation

open Text (StartsOutside startsOutside_nil startsOutside_cons)

/-! ## Digits -/

namespace Numeral

/-- Only zero is written with a zero in front. -/
theorem head_digits_ne_zero {number : Nat} (positive : 0 < number) : (digits number).head? ≠ some '0' := by
  induction number using Nat.strongRecOn with
  | ind number ih =>
      by_cases small : number < 10
      · have digitsOf : ∀ digit < 10, 0 < digit → [Nat.digitChar digit].head? ≠ some '0' := by decide
        rw [digits, Nat.toDigits_of_lt_base small]
        exact digitsOf number small positive
      · have shorter := ih (number / 10) (by omega) (by omega)
        rw [digits, Nat.toDigits_of_base_le (by decide) (by omega), List.head?_append]
        rw [digits] at shorter
        cases front : (Nat.toDigits 10 (number / 10)).head? with
        | none => exact absurd (List.head?_eq_none_iff.mp front) Nat.toDigits_ne_nil
        | some char => simpa [front] using shorter

theorem exists_digits_eq (number : Nat) :
    ∃ char rest, digits number = char :: rest ∧ char.isDigit = true := by
  cases spelled : digits number with
  | nil => exact absurd spelled Nat.toDigits_ne_nil
  | cons char rest => exact ⟨char, rest, rfl, isDigit_of_mem_digits (spelled ▸ List.mem_cons_self)⟩

end Numeral

namespace Document

/-- A digit or a point: what a number goes on with. -/
def continuesNumber (char : Char) : Bool :=
  char.isDigit || char == '.'

variable {rest : Text} {char : Char}

theorem lexeme?_of_isDigit (digit : char.isDigit = true) :
    lexeme? (char :: rest) = unsignedNumber? false (char :: rest) := by
  unfold lexeme?
  split
  case h_12 => rfl
  all_goals
    next same =>
      cases same
      exact absurd digit (by decide)

theorem isSpace_of_isDigit (digit : char.isDigit = true) : isSpace char = false := by
  simp only [isSpace, Bool.or_eq_false_iff, beq_eq_false_iff_ne]
  refine ⟨⟨⟨?_, ?_⟩, ?_⟩, ?_⟩ <;>
  · rintro rfl
    exact absurd digit (by decide)

theorem unsignedNumber?_digits (negative : Bool) {number : Nat} (short : Numeral.fits number = true)
    (ended : StartsOutside continuesNumber rest) :
    unsignedNumber? negative (Numeral.digits number ++ rest) =
      some (.number (if negative then -number else number), rest) := by
  have numeral := Numeral.isNumeral_digits short
  have inside : ∀ char ∈ Numeral.digits number, char.isDigit = true := fun _ => Numeral.isDigit_of_mem_digits
  have outside : StartsOutside Char.isDigit rest := by
    intro char member
    exact (Bool.or_eq_false_iff.mp (ended char member)).1
  have alone : (Numeral.digits number).head? = some '0' → (Numeral.digits number).length ≤ 1 := by
    intro zero
    obtain rfl | positive := Nat.eq_zero_or_pos number
    · decide
    · exact absurd zero (Numeral.head_digits_ne_zero positive)
  unfold unsignedNumber?
  simp only [Text.takeWhile_append inside outside, Text.dropWhile_append inside outside]
  have readable : ¬ ((Numeral.digits number).isEmpty ∨
      ((Numeral.digits number).head? = some '0' ∧ 1 < (Numeral.digits number).length) ∨
      Numeral.digitLimit < (Numeral.digits number).length) := by
    rintro (empty | ⟨zero, long⟩ | long)
    · exact numeral.nonempty (List.isEmpty_iff.mp empty)
    · exact absurd (alone zero) (by omega)
    · exact absurd numeral.short (by omega)
  rw [if_neg readable, Numeral.value_digits]
  split
  · exact absurd (ended '.' rfl) (by decide)
  · rfl

theorem lexeme?_number {number : Int} (short : Numeral.fits number = true)
    (ended : StartsOutside continuesNumber rest) :
    lexeme? (Numeral.write number ++ rest) = some (.number number, rest) := by
  cases number with
  | ofNat number =>
      have read := unsignedNumber?_digits false short ended
      obtain ⟨char, later, spelled, digit⟩ := Numeral.exists_digits_eq number
      rw [Numeral.write]
      rw [spelled, List.cons_append] at read ⊢
      exact (lexeme?_of_isDigit digit).trans read
  | negSucc number =>
      have magnitude : Numeral.fits ((number + 1 : Nat) : Int) = true := short
      exact unsignedNumber?_digits true magnitude ended

/-! ## Quoted texts -/

theorem hexValue?_digitChar : ∀ digit < 16, hexValue? (Nat.digitChar digit) = some digit := by
  decide

theorem hexCode?_hexDigits {code : Nat} (small : code < 0x10000) :
    ∃ first second third fourth, Text.hexDigits 4 code = [first, second, third, fourth] ∧
      hexCode? first second third fourth = some code := by
  refine ⟨_, _, _, _, rfl, ?_⟩
  simp only [hexCode?, hexValue?_digitChar _ (Nat.mod_lt _ (by decide)), Option.bind_eq_bind, Option.bind_some,
    Option.pure_def, Option.some.injEq]
  omega

/-- An escape by code that begins here can be decoded. -/
def Decodes (text : Text) : Prop :=
  ∀ first second third fourth rest, text = '\\' :: 'u' :: first :: second :: third :: fourth :: rest →
    ∃ code, hexCode? first second third fourth = some code

variable {later before : Text}

theorem quotedRest?_short {letter : Char} (escape : shortEscape? letter = some char) :
    quotedRest? ('\\' :: letter :: later) before = quotedRest? later (char :: before) := by
  have noCode : letter ≠ 'u' := by
    rintro rfl
    cases escape
  rw [quotedRest?.eq_5 _ _ _ (fun _ _ _ _ _ _ _ _ _ same => absurd same noCode)
    (fun _ _ _ _ _ same => absurd same noCode), escape]
  rfl

theorem quotedRest?_plain (noMark : char ≠ '"') (noEscape : char ≠ '\\') (visible : ¬ char.toNat < 0x20) :
    quotedRest? (char :: later) before = quotedRest? later (char :: before) := by
  rw [quotedRest?.eq_6 _ _ _ (fun same => absurd same noMark) (fun _ _ _ _ _ _ _ _ _ same => absurd same noEscape)
    (fun _ _ _ _ _ same => absurd same noEscape) (fun _ _ same => absurd same noEscape), if_neg]
  simp [visible, noEscape]

/-- One code does not join with what follows it, unless it is the first half of a pair. -/
theorem quotedRest?_code {first second third fourth : Char} {code : Nat}
    (decoded : hexCode? first second third fourth = some code) (single : code < 0xd800) (decodes : Decodes later) :
    quotedRest? ('\\' :: 'u' :: first :: second :: third :: fourth :: later) before =
      quotedRest? later (Char.ofNat code :: before) := by
  by_cases again : ∃ a b c d rest, later = '\\' :: 'u' :: a :: b :: c :: d :: rest
  · obtain ⟨a, b, c, d, rest, rfl⟩ := again
    obtain ⟨next, nextDecoded⟩ := decodes a b c d rest rfl
    rw [quotedRest?.eq_3, decoded, nextDecoded]
    exact if_neg (by omega)
  · rw [quotedRest?.eq_4 _ _ _ _ _ _ (fun a b c d rest same => again ⟨a, b, c, d, rest, same⟩), decoded]
    rfl

/-- A character is written with a letter, with a code, or as itself. -/
theorem escaped_cases (char : Char) :
    (∃ letter, escaped char = ['\\', letter] ∧ shortEscape? letter = some char) ∨
      (∃ first second third fourth, escaped char = ['\\', 'u', first, second, third, fourth] ∧
        hexCode? first second third fourth = some char.toNat ∧ char.toNat < 0x20) ∨
      escaped char = [char] ∧ char ≠ '"' ∧ char ≠ '\\' ∧ ¬ char.toNat < 0x20 := by
  unfold escaped
  iterate 7
    split
    · subst char
      exact .inl ⟨_, rfl, rfl⟩
  split
  · next control =>
      have small : char.toNat < 0x10000 := by omega
      obtain ⟨first, second, third, fourth, spelled, decoded⟩ := hexCode?_hexDigits small
      exact .inr (.inl ⟨first, second, third, fourth, by rw [spelled]; rfl, decoded, control⟩)
  · next visible => exact .inr (.inr ⟨rfl, ‹_›, ‹_›, visible⟩)

theorem quotedRest?_escaped (decodes : Decodes later) :
    quotedRest? (escaped char ++ later) before = quotedRest? later (char :: before) := by
  obtain ⟨letter, spelled, escape⟩ | ⟨first, second, third, fourth, spelled, decoded, control⟩ |
    ⟨spelled, noMark, noEscape, visible⟩ := escaped_cases char
  · rw [spelled]
    exact quotedRest?_short escape
  · rw [spelled]
    have single : char.toNat < 0xd800 := by omega
    have step : quotedRest? _ before = _ := quotedRest?_code decoded single decodes
    rw [Char.ofNat_toNat] at step
    exact step
  · rw [spelled]
    exact quotedRest?_plain noMark noEscape visible

theorem decodes_escaped (text rest : Text) : Decodes (text.flatMap escaped ++ '"' :: rest) := by
  intro a b c d tail same
  cases text with
  | nil => cases same
  | cons char text =>
      rw [List.flatMap_cons] at same
      obtain ⟨letter, spelled, escape⟩ | ⟨first, second, third, fourth, spelled, decoded, _⟩ |
        ⟨spelled, _, noEscape, _⟩ := escaped_cases char
      · rw [spelled] at same
        obtain rfl : letter = 'u' := (List.cons.inj (List.cons.inj same).2).1
        cases escape
      · rw [spelled] at same
        cases same
        exact ⟨_, decoded⟩
      · rw [spelled] at same
        exact absurd (List.cons.inj same).1 noEscape

/-- A quoted text is read back up to its closing mark. -/
theorem quotedRest?_flatMap_escaped (text rest before : Text) :
    quotedRest? (text.flatMap escaped ++ '"' :: rest) before = some (before.reverse ++ text, rest) := by
  induction text generalizing before with
  | nil =>
      rw [List.append_nil]
      exact quotedRest?.eq_2 before rest
  | cons char text ih =>
      rw [List.flatMap_cons, List.append_assoc, quotedRest?_escaped (decodes_escaped text rest), ih,
        List.reverse_cons, List.append_assoc, List.singleton_append]

theorem lexeme?_quoted (value : String) : lexeme? (quoted value ++ rest) = some (.text value, rest) := by
  have read := quotedRest?_flatMap_escaped value.toList rest []
  have spelled : quoted value ++ rest = '"' :: (value.toList.flatMap escaped ++ '"' :: rest) := by
    simp [quoted]
  rw [spelled, lexeme?, read]
  simp

/-! ## Texts and their lexemes -/

/-- The text is cut into these lexemes, unless a number at its end goes on after it. -/
structure Lexes (text : Text) (lexemes : List Lexeme) : Prop where
  short : lexemes.length ≤ text.length
  reads : ∀ (fuel : Nat) (rest : Text) (before : List Lexeme), StartsOutside continuesNumber rest →
    lexemesFrom? (fuel + lexemes.length) (text ++ rest) before = lexemesFrom? fuel rest (lexemes.reverse ++ before)

variable {text first second : Text} {lexemes firstLexemes secondLexemes : List Lexeme} {lexeme : Lexeme}

theorem lexes_nil : Lexes [] [] where
  short := Nat.le_refl 0
  reads _ _ _ _ := rfl

theorem lexes_of_lexeme (visible : isSpace char = false)
    (read : ∀ rest, StartsOutside continuesNumber rest → lexeme? (char :: (text ++ rest)) = some (lexeme, rest)) :
    Lexes (char :: text) [lexeme] where
  short := by simp
  reads fuel rest before ended := by
    rw [List.length_singleton, List.cons_append, lexemesFrom?, if_neg (by simp [visible]), read rest ended]
    rfl

/-- A mark is a lexeme whatever follows it. -/
theorem Lexes.cons (later : Lexes text lexemes) (visible : isSpace char = false)
    (read : ∀ rest, lexeme? (char :: rest) = some (lexeme, rest)) : Lexes (char :: text) (lexeme :: lexemes) where
  short := by simpa using later.short
  reads fuel rest before ended := by
    rw [List.length_cons, ← Nat.add_assoc, List.cons_append, lexemesFrom?, if_neg (by simp [visible]), read]
    simpa using later.reads fuel rest (lexeme :: before) ended

theorem Lexes.append (earlier : Lexes first firstLexemes) (later : Lexes (char :: second) secondLexemes)
    (apart : continuesNumber char = false) : Lexes (first ++ char :: second) (firstLexemes ++ secondLexemes) where
  short := by
    rw [List.length_append, List.length_append]
    exact Nat.add_le_add earlier.short later.short
  reads fuel rest before ended := by
    rw [List.length_append, Nat.add_comm firstLexemes.length, ← Nat.add_assoc, List.append_assoc, List.cons_append,
      earlier.reads _ _ _ (startsOutside_cons.mpr apart), ← List.cons_append, later.reads _ _ _ ended,
      List.reverse_append, List.append_assoc]

theorem Lexes.lexemes?_eq (all : Lexes text lexemes) : lexemes? text = some lexemes := by
  obtain ⟨extra, size⟩ : ∃ extra, text.length = extra + lexemes.length :=
    ⟨text.length - lexemes.length, (Nat.sub_add_cancel all.short).symm⟩
  have read := all.reads extra [] [] startsOutside_nil
  rw [List.append_nil, List.append_nil, lexemesFrom?, List.reverse_reverse] at read
  rw [lexemes?, size, read]

end Document
end DiceNotation
