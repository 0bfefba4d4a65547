import DiceNotation.Proofs.Notation.Alphabet
import DiceNotation.Proofs.Outcome
import DiceNotation.Proofs.Text.Runs

/-!
# Recognising modifiers

Codes and numerals are collected apart and paired by position. On texts of digits and code letters this is the
same as reading one modifier after the other: a code and a numeral take turns, so equally many runs of both
kinds are in fact alternating runs.
-/

set_option autoImplicit false

namespace DiceNotation

open Notation

theorem Numeral.read_eq_ok_iff {run : Text} {number : Nat} :
    Numeral.read run = .ok number ↔
      run.length ≤ Numeral.digitLimit ∧ Numeral.value run = number := by
  unfold Numeral.read Numeral.read?
  by_cases short : run.length ≤ Numeral.digitLimit
  · simp [short]
  · simp [short]

namespace Grammar

theorem IsNumeral.isDecimal {numeral : Text} (valid : IsNumeral numeral) :
    ∀ char ∈ numeral, Text.isDecimal char = true := by
  intro char member
  obtain ⟨atLeast, atMost⟩ := valid.digits char member
  exact isDecimal_of_ascii atLeast atMost

theorem IsNumeral.modifierCharacters {numeral : Text} (valid : IsNumeral numeral) :
    ∀ char ∈ numeral, IsModifierCharacter char := by
  intro char member
  obtain ⟨atLeast, atMost⟩ := valid.digits char member
  exact isModifierCharacter_of_ascii atLeast atMost

theorem IsNumeral.read {numeral : Text} (valid : IsNumeral numeral) :
    Numeral.read numeral = .ok (Numeral.value numeral) :=
  Numeral.read_eq_ok_iff.mpr ⟨valid.short, rfl⟩

/-- A readable run of decimal digits from the alphabet is a numeral of the grammar. -/
theorem isNumeral_of_read {run : Text} {number : Nat} (nonempty : run ≠ [])
    (own : ∀ char ∈ run, IsModifierCharacter char)
    (decimal : ∀ char ∈ run, Text.isDecimal char = true)
    (read : Numeral.read run = .ok number) :
    IsNumeral run ∧ Numeral.value run = number := by
  obtain ⟨short, same⟩ := Numeral.read_eq_ok_iff.mp read
  refine ⟨⟨nonempty, ?_, short⟩, same⟩
  intro char member
  exact (own char member).isDecimal_iff.mp (decimal char member)

theorem WritesModifiers.modifierCharacters {text : Text} {modifiers : List Modifier}
    (written : WritesModifiers text modifiers) : ∀ char ∈ text, IsModifierCharacter char := by
  induction written with
  | nil => simp
  | cons numeral _ ih =>
      intro char member
      rcases List.mem_append.mp member with early | late
      · rcases List.mem_append.mp early with letter | digit
        · exact isModifierCharacter_of_mem_code letter
        · exact numeral.modifierCharacters char digit
      · exact ih char late

theorem WritesModifiers.startsOutside {text : Text} {modifiers : List Modifier}
    (written : WritesModifiers text modifiers) : Text.StartsOutside Text.isDecimal text := by
  cases written with
  | nil => exact Text.startsOutside_nil
  | @cons kind _ _ _ _ _ => cases kind <;> exact Text.startsOutside_cons.mpr (by decide)

end Grammar

namespace Modifier

theorem ofParts_eq_ok_iff {code numeral : Text} {modifier : Modifier} :
    ofParts code numeral = .ok modifier ↔
      modifier.kind.code = code ∧ numeral.length ≤ Numeral.digitLimit ∧
        modifier.value = Numeral.value numeral := by
  unfold ofParts
  cases found : ModifierKind.ofCode? code with
  | none =>
      simp only [reject_ne_ok, false_iff]
      intro given
      obtain ⟨rfl, _⟩ := given
      simp [ModifierKind.ofCode?_code] at found
  | some kind =>
      simp only [bind_eq_ok_iff, pure_eq_ok_iff, Numeral.read_eq_ok_iff]
      constructor
      · intro given
        obtain ⟨number, ⟨short, rfl⟩, rfl⟩ := given
        exact ⟨ModifierKind.code_of_ofCode? found, short, rfl⟩
      · intro given
        obtain ⟨rfl, short, same⟩ := given
        rw [ModifierKind.ofCode?_code] at found
        cases found
        exact ⟨_, ⟨short, rfl⟩, by rw [← same]⟩

/-! ## Turns -/

/-- Letters of codes and nothing else. -/
structure IsLetters (text : Text) : Prop where
  nonempty : text ≠ []
  own : ∀ char ∈ text, IsModifierCharacter char
  letters : ∀ char ∈ text, Text.isDecimal char = false

/-- Digits of the alphabet and nothing else. -/
structure IsDigits (text : Text) : Prop where
  nonempty : text ≠ []
  own : ∀ char ∈ text, IsModifierCharacter char
  digits : ∀ char ∈ text, Text.isDecimal char = true

/-- Letters and digits that take turns, in pairs. The letters need not be a known code, and the digits may be too
many for a numeral. -/
inductive TakesTurns : Text → List (Text × Text) → Prop where
  | nil : TakesTurns [] []
  | cons {letters digits rest : Text} {parts : List (Text × Text)} :
      IsLetters letters → IsDigits digits → TakesTurns rest parts →
      TakesTurns (letters ++ (digits ++ rest)) ((letters, digits) :: parts)

private theorem IsLetters.isCodeLetter {text : Text} (letters : IsLetters text) :
    ∀ char ∈ text, isCodeLetter char = true := by
  intro char member
  rw [(letters.own char member).isCodeLetter_eq, letters.letters char member]
  rfl

private theorem IsDigits.not_isCodeLetter {text : Text} (digits : IsDigits text) :
    ∀ char ∈ text, isCodeLetter char = false := by
  intro char member
  rw [(digits.own char member).isCodeLetter_eq, digits.digits char member]
  rfl

private theorem IsLetters.startsOutside {text : Text} (letters : IsLetters text) (rest : Text) :
    Text.StartsOutside Text.isDecimal (text ++ rest) := by
  cases text with
  | nil => exact absurd rfl letters.nonempty
  | cons letter text =>
      exact Text.startsOutside_cons.mpr (letters.letters letter List.mem_cons_self)

private theorem IsDigits.startsOutside {text : Text} (digits : IsDigits text) (rest : Text) :
    Text.StartsOutside isCodeLetter (text ++ rest) := by
  cases text with
  | nil => exact absurd rfl digits.nonempty
  | cons digit text =>
      exact Text.startsOutside_cons.mpr (digits.not_isCodeLetter digit List.mem_cons_self)

theorem TakesTurns.startsOutside {text : Text} {parts : List (Text × Text)} (turns : TakesTurns text parts) :
    Text.StartsOutside Text.isDecimal text := by
  cases turns with
  | nil => exact Text.startsOutside_nil
  | cons letters _ _ => exact letters.startsOutside _

private theorem runs_letters_digits {code numeral rest : Text} (letters : IsLetters code)
    (digits : IsDigits numeral) (restStart : Text.StartsOutside Text.isDecimal rest) :
    (code ++ (numeral ++ rest)).runs isCodeLetter = code :: rest.runs isCodeLetter ∧
      (code ++ (numeral ++ rest)).runs Text.isDecimal = numeral :: rest.runs Text.isDecimal := by
  constructor
  · rw [Text.runs_append letters.nonempty letters.isCodeLetter (digits.startsOutside rest),
      Text.runs_append_of_not digits.not_isCodeLetter]
  · rw [Text.runs_append_of_not letters.letters,
      Text.runs_append digits.nonempty digits.digits restStart]

theorem TakesTurns.runs {text : Text} {parts : List (Text × Text)} (turns : TakesTurns text parts) :
    text.runs isCodeLetter = parts.map Prod.fst ∧ text.runs Text.isDecimal = parts.map Prod.snd := by
  induction turns with
  | nil => exact ⟨rfl, rfl⟩
  | cons letters digits later ih =>
      obtain ⟨codes, numerals⟩ := runs_letters_digits letters digits later.startsOutside
      rw [codes, numerals, ih.1, ih.2]
      exact ⟨rfl, rfl⟩

/-- A text of code letters and digits that starts with a letter takes turns, unless it ends in a letter and so has
one run of letters more than it has runs of digits. -/
theorem takesTurns_or_length_runs_ne {text : Text} (own : ∀ char ∈ text, IsModifierCharacter char)
    (start : Text.StartsOutside Text.isDecimal text) :
    (∃ parts, TakesTurns text parts) ∨
      (text.runs isCodeLetter).length ≠ (text.runs Text.isDecimal).length := by
  -- The induction is on the length: behind one code and one numeral the text is shorter.
  induction size : text.length using Nat.strongRecOn generalizing text with
  | ind size ih =>
      subst size
      by_cases empty : text = []
      · subst empty
        exact .inl ⟨[], .nil⟩
      obtain ⟨code, numeral, rest, rfl, nonempty, foreign, decimal, restStart, last⟩ :=
        Text.exists_skipped_run empty start
      have letters : IsLetters code :=
        ⟨nonempty, fun char member => own char (List.mem_append_left _ member), foreign⟩
      by_cases bare : numeral = []
      · have codes := Text.runs_append letters.nonempty letters.isCodeLetter Text.startsOutside_nil
        have numerals := Text.runs_append_of_not letters.letters []
        rw [List.append_nil] at codes numerals
        rw [bare, last bare, List.append_nil, List.append_nil, codes, numerals]
        exact .inr (by simp)
      · have digits : IsDigits numeral :=
          ⟨bare, fun char member => own char (by simp [member]), decimal⟩
        have smaller : rest.length < (code ++ (numeral ++ rest)).length := by
          have positive : 0 < code.length := List.length_pos_iff.mpr nonempty
          simp only [List.length_append]
          omega
        rcases ih rest.length smaller (fun char member => own char (by simp [member])) restStart rfl with
          ⟨parts, turns⟩ | unequal
        · exact .inl ⟨_, .cons letters digits turns⟩
        · obtain ⟨codes, numerals⟩ := runs_letters_digits letters digits restStart
          rw [codes, numerals]
          exact .inr (by simpa using unequal)

/-! ## Reading -/

theorem TakesTurns.listOfText {text : Text} {parts : List (Text × Text)} (turns : TakesTurns text parts) :
    listOfText text = parts.mapM fun (code, numeral) => ofParts code numeral := by
  obtain ⟨codes, numerals⟩ := turns.runs
  cases turns with
  | nil => rfl
  | @cons code numeral rest parts letters _ _ =>
      obtain ⟨letter, others, rfl⟩ := List.exists_cons_of_ne_nil letters.nonempty
      have alphabetic : Text.isLetter letter = true := by
        rw [(letters.own letter List.mem_cons_self).isLetter_eq, letters.letters letter List.mem_cons_self]
        rfl
      rw [List.cons_append] at codes numerals ⊢
      rw [Modifier.listOfText, if_pos alphabetic]
      simp only [codes, numerals, List.length_map, if_true]
      rw [← List.zip_of_prod rfl rfl]

theorem listOfText_of_length_runs_ne {text : Text} (own : ∀ char ∈ text, IsModifierCharacter char)
    (start : Text.StartsOutside Text.isDecimal text)
    (unequal : (text.runs isCodeLetter).length ≠ (text.runs Text.isDecimal).length) :
    listOfText text = reject (.malformedModifiers text) := by
  cases text with
  | nil => exact absurd rfl unequal
  | cons char rest =>
      have letter : Text.isLetter char = true := by
        rw [(own char List.mem_cons_self).isLetter_eq, Text.startsOutside_cons.mp start]
        rfl
      simp only [listOfText, letter, if_true, unequal, if_false]

private theorem isLetters_code (kind : ModifierKind) : IsLetters kind.code where
  nonempty := by cases kind <;> simp [ModifierKind.code]
  own := fun _ => isModifierCharacter_of_mem_code
  letters := fun _ => isDecimal_of_mem_code

theorem listOfText_of_writes {text : Text} {modifiers : List Modifier}
    (written : Grammar.WritesModifiers text modifiers) : listOfText text = .ok modifiers := by
  obtain ⟨parts, turns, made⟩ : ∃ parts, TakesTurns text parts ∧
      parts.mapM (fun (code, numeral) => ofParts code numeral) = .ok modifiers := by
    induction written with
    | nil => exact ⟨[], .nil, rfl⟩
    | @cons kind numeral rest modifiers valid _ ih =>
        obtain ⟨parts, turns, made⟩ := ih
        have digits : IsDigits numeral := ⟨valid.nonempty, valid.modifierCharacters, valid.isDecimal⟩
        have first : ofParts kind.code numeral = .ok ⟨kind, Numeral.value numeral⟩ :=
          ofParts_eq_ok_iff.mpr ⟨rfl, valid.short, rfl⟩
        rw [List.append_assoc]
        refine ⟨_, .cons (isLetters_code kind) digits turns, ?_⟩
        simp only [List.mapM_cons, first, made]
        rfl
  rw [turns.listOfText, made]

theorem writes_of_listOfText {text : Text} {modifiers : List Modifier}
    (own : ∀ char ∈ text, IsModifierCharacter char)
    (start : Text.StartsOutside Text.isDecimal text)
    (read : listOfText text = .ok modifiers) : Grammar.WritesModifiers text modifiers := by
  rcases takesTurns_or_length_runs_ne own start with ⟨parts, turns⟩ | unequal
  · rw [turns.listOfText] at read
    clear own start
    induction turns generalizing modifiers with
    | nil =>
        cases read
        exact .nil
    | cons letters digits _ ih =>
        simp only [List.mapM_cons, bind_eq_ok_iff, pure_eq_ok_iff] at read
        obtain ⟨⟨kind, value⟩, made, others, later, rfl⟩ := read
        obtain ⟨rfl, short, rfl⟩ := ofParts_eq_ok_iff.mp made
        obtain ⟨valid, _⟩ := Grammar.isNumeral_of_read digits.nonempty digits.own digits.digits
          (Numeral.read_eq_ok_iff.mpr ⟨short, rfl⟩)
        rw [← List.append_assoc]
        exact .cons valid (ih later)
  · rw [listOfText_of_length_runs_ne own start unequal] at read
    exact absurd read reject_ne_ok

end Modifier

end DiceNotation
