import DiceNotation.Notation.Grammar

/-!
# The alphabet of expressions

Every character of an expression is a sign, the mark of exploding dice, an ASCII digit or a letter of some
code. On this alphabet the character classes of all scripts are the ASCII ones, and cleaning changes nothing.
-/

set_option autoImplicit false

namespace DiceNotation.Notation

/-- The characters of the modifiers of a group: digits and the letters of codes. -/
def IsModifierCharacter (char : Char) : Prop :=
  char ∈ Text.of "dlkxhrbeamn0123456789"

instance (char : Char) : Decidable (IsModifierCharacter char) :=
  inferInstanceAs (Decidable (char ∈ Text.of "dlkxhrbeamn0123456789"))

/-- What holds of each character of a text by itself. -/
private theorem forall_mem_of_all {text : Text} {holds : Char → Prop} [DecidablePred holds]
    (checked : (text.all fun char => decide (holds char)) = true) : ∀ char ∈ text, holds char := by
  simpa using checked

theorem sign_or_mark_or_modifierCharacter :
    ∀ char ∈ allowedCharacters,
      (Sign.ofChar? char).isSome = true ∨ char = '!' ∨ IsModifierCharacter char :=
  forall_mem_of_all (by decide)

/-- One pass over the alphabet settles every question about its characters. -/
private theorem classes_of_modifierCharacter :
    ∀ char, IsModifierCharacter char →
      char ∈ allowedCharacters ∧ Sign.ofChar? char = none ∧ char ≠ '!' ∧
        (Text.isDecimal char = true ↔ '0' ≤ char ∧ char ≤ '9') ∧
        Modifier.isCodeLetter char = (!Text.isDecimal char) ∧
        Text.isLetter char = (!Text.isDecimal char) := by
  have all : ∀ char ∈ Text.of "dlkxhrbeamn0123456789",
      char ∈ allowedCharacters ∧ Sign.ofChar? char = none ∧ char ≠ '!' ∧
        (Text.isDecimal char = true ↔ '0' ≤ char ∧ char ≤ '9') ∧
        Modifier.isCodeLetter char = (!Text.isDecimal char) ∧
        Text.isLetter char = (!Text.isDecimal char) := forall_mem_of_all (by decide +kernel)
  exact all

namespace IsModifierCharacter

variable {char : Char}

theorem allowed (own : IsModifierCharacter char) : char ∈ allowedCharacters :=
  (classes_of_modifierCharacter char own).1

theorem not_sign (own : IsModifierCharacter char) : Sign.ofChar? char = none :=
  (classes_of_modifierCharacter char own).2.1

theorem ne_mark (own : IsModifierCharacter char) : char ≠ '!' :=
  (classes_of_modifierCharacter char own).2.2.1

theorem isDecimal_iff (own : IsModifierCharacter char) :
    Text.isDecimal char = true ↔ '0' ≤ char ∧ char ≤ '9' :=
  (classes_of_modifierCharacter char own).2.2.2.1

theorem isCodeLetter_eq (own : IsModifierCharacter char) :
    Modifier.isCodeLetter char = !Text.isDecimal char :=
  (classes_of_modifierCharacter char own).2.2.2.2.1

theorem isLetter_eq (own : IsModifierCharacter char) :
    Text.isLetter char = !Text.isDecimal char :=
  (classes_of_modifierCharacter char own).2.2.2.2.2

end IsModifierCharacter

/-! ## Digits and codes -/

theorem isDecimal_of_ascii {char : Char} (atLeast : '0' ≤ char) (atMost : char ≤ '9') :
    Text.isDecimal char = true := by
  have low : 0x30 ≤ char.toNat := atLeast
  have high : char.toNat ≤ 0x39 := atMost
  simp [Text.isDecimal, Text.digitValue?, Text.zeroDigits, low, high]

theorem isModifierCharacter_of_ascii {char : Char} (atLeast : '0' ≤ char) (atMost : char ≤ '9') :
    IsModifierCharacter char := by
  have low : 0x30 ≤ char.toNat := atLeast
  have high : char.toNat ≤ 0x39 := atMost
  have same : char = Char.ofNat char.toNat := (Char.ofNat_toNat char).symm
  have range : char.toNat ∈ (List.range 10).map (0x30 + ·) :=
    List.mem_map.mpr ⟨char.toNat - 0x30, List.mem_range.mpr (by omega), by omega⟩
  have all : ∀ code ∈ (List.range 10).map (0x30 + ·), IsModifierCharacter (Char.ofNat code) := by
    decide
  rw [same]
  exact all _ range

theorem isModifierCharacter_of_mem_code {kind : ModifierKind} {char : Char}
    (member : char ∈ kind.code) : IsModifierCharacter char := by
  have all : ∀ other ∈ kind.code, IsModifierCharacter other := by
    cases kind <;> exact forall_mem_of_all (by decide)
  exact all char member

theorem isDecimal_of_mem_code {kind : ModifierKind} {char : Char} (member : char ∈ kind.code) :
    Text.isDecimal char = false := by
  have all : ∀ other ∈ kind.code, Text.isDecimal other = false := by
    cases kind <;> exact forall_mem_of_all (by decide)
  exact all char member

/-! ## Cleaning -/

private theorem lowerBetween_of_allowed {char : Char} (allowed : char ∈ allowedCharacters)
    (before after : Text) : Text.lowerBetween before char after = [char] := by
  have all : ∀ other ∈ allowedCharacters,
      other ≠ '\u0130' ∧ other ≠ 'Σ' ∧ Text.lowerChar other = other :=
    forall_mem_of_all (by decide +kernel)
  obtain ⟨noDot, noSigma, same⟩ := all char allowed
  rw [Text.lowerBetween, if_neg noDot, if_neg noSigma, same]

private theorem lowerAfter_of_allowed {text : Text}
    (allowed : ∀ char ∈ text, char ∈ allowedCharacters) (before : Text) :
    Text.lowerAfter before text = text := by
  induction text generalizing before with
  | nil => rfl
  | cons char text ih =>
      have rest := ih (fun other member => allowed other (List.mem_cons_of_mem _ member))
        (char :: before)
      rw [Text.lowerAfter, lowerBetween_of_allowed (allowed char List.mem_cons_self), rest]
      rfl

/-- An expression that is written in its own alphabet is clean already. -/
theorem cleaned_of_allowed {text : Text} (allowed : ∀ char ∈ text, char ∈ allowedCharacters) :
    cleaned text = text := by
  have all : ∀ other ∈ allowedCharacters, (!Text.isIgnored other) = true :=
    forall_mem_of_all (by decide)
  rw [cleaned, Text.lower, lowerAfter_of_allowed allowed]
  exact List.filter_eq_self.mpr fun char member => all char (allowed char member)

theorem checkCharacters_eq_ok_iff {text : Text} :
    checkCharacters text = .ok () ↔ ∀ char ∈ text, char ∈ allowedCharacters := by
  unfold checkCharacters
  cases found : text.find? fun char => !allowedCharacters.contains char with
  | none => simpa [List.find?_eq_none] using found
  | some char =>
      have outside := List.find?_some found
      have member := List.mem_of_find?_eq_some found
      constructor
      · intro accepted
        exact absurd accepted reject_ne_ok
      · intro allowed
        simp [allowed char member] at outside

end DiceNotation.Notation
