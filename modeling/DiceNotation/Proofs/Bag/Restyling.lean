import Mathlib.Logic.Relation
import DiceNotation.Proofs.Bag.Pieces

/-!
# Blanks and case mean nothing

A text is restyled when blanks and control characters come and go anywhere in it and ASCII letters change their case.
Restyling leaves the cleaned text as it is, so the text is read alike. A capital sigma is an exception, because its
lower case depends on its neighbours; but a text with one is rejected in every style.
-/

set_option autoImplicit false

namespace DiceNotation

namespace Text

/-- One change of style. The case maps of a single character change ASCII letters and nothing else. -/
inductive Restyle : Text → Text → Prop where
  | inserted {before after : Text} {char : Char} : isIgnored char = true →
      Restyle (before ++ after) (before ++ char :: after)
  | deleted {before after : Text} {char : Char} : isIgnored char = true →
      Restyle (before ++ char :: after) (before ++ after)
  | raised {before after : Text} {char : Char} :
      Restyle (before ++ char :: after) (before ++ char.toUpper :: after)
  | lowered {before after : Text} {char : Char} :
      Restyle (before ++ char :: after) (before ++ char.toLower :: after)

/-! ## Single characters -/

/-- The lower case of a character without neighbours. -/
def lowerAlone (char : Char) : Text :=
  lowerBetween [] char []

/-- What was checked code by code holds of the characters with these codes. -/
private theorem holds_of_mem_codes {Holds : Char → Prop} {codes : List Nat}
    (checked : ∀ code ∈ codes, Holds (Char.ofNat code)) : ∀ char : Char, char.toNat ∈ codes → Holds char := by
  intro char member
  have own := checked char.toNat member
  rwa [Char.ofNat_toNat] at own

theorem lowerBetween_eq_lowerAlone {char : Char} (other : char ≠ 'Σ') (before after : Text) :
    lowerBetween before char after = lowerAlone char := by
  rw [lowerAlone, lowerBetween, lowerBetween, if_neg other, if_neg other]

/-- What is ignored is no letter, so it has no other case. -/
theorem lowerAlone_of_isIgnored {char : Char} (ignored : isIgnored char = true) :
    char ≠ 'Σ' ∧ lowerAlone char = [char] := by
  let codes := List.range 0xa1 ++ 0x1680 :: (List.range 11).map (0x2000 + ·) ++
    [0x2028, 0x2029, 0x202f, 0x205f, 0x3000]
  have all : ∀ char : Char, char.toNat ∈ codes → isIgnored char = true → char ≠ 'Σ' ∧ lowerAlone char = [char] :=
    holds_of_mem_codes (by decide +kernel)
  refine all char ?_ ignored
  simp only [isIgnored, isBlank, isControl, Bool.or_eq_true, Bool.and_eq_true, decide_eq_true_eq,
    beq_iff_eq] at ignored
  simp only [codes, List.mem_append, List.mem_cons, List.mem_map, List.mem_range, List.not_mem_nil, or_false]
  by_cases general : 0x2000 ≤ char.toNat ∧ char.toNat ≤ 0x200a
  · exact .inl (.inr (.inr ⟨char.toNat - 0x2000, by omega, by omega⟩))
  · omega

/-- A change that affects an alphabet of 26 letters only, and was checked for each of them. -/
private theorem lowerAlone_recased {recased : Char → Char} {first : Nat}
    (others : ∀ char : Char, ¬ (first ≤ char.toNat ∧ char.toNat < first + 26) → recased char = char)
    (checked : ∀ code ∈ (List.range 26).map (first + ·),
      (recased (Char.ofNat code) = 'Σ' ↔ Char.ofNat code = 'Σ') ∧
        lowerAlone (recased (Char.ofNat code)) = lowerAlone (Char.ofNat code)) (char : Char) :
    (recased char = 'Σ' ↔ char = 'Σ') ∧ lowerAlone (recased char) = lowerAlone char := by
  by_cases letter : first ≤ char.toNat ∧ char.toNat < first + 26
  · have member : char.toNat ∈ (List.range 26).map (first + ·) :=
      List.mem_map.mpr ⟨char.toNat - first, List.mem_range.mpr (by omega), by omega⟩
    have own := checked char.toNat member
    rwa [Char.ofNat_toNat] at own
  · rw [others char letter]
    exact ⟨Iff.rfl, rfl⟩

theorem lowerAlone_toUpper (char : Char) :
    (char.toUpper = 'Σ' ↔ char = 'Σ') ∧ lowerAlone char.toUpper = lowerAlone char := by
  refine @lowerAlone_recased Char.toUpper 0x61 (fun char other => dif_neg ?_) (by decide +kernel) char
  exact fun small => other ⟨small.1, Nat.lt_succ_of_le small.2⟩

theorem lowerAlone_toLower (char : Char) :
    (char.toLower = 'Σ' ↔ char = 'Σ') ∧ lowerAlone char.toLower = lowerAlone char := by
  refine @lowerAlone_recased Char.toLower 0x41 (fun char other => dif_neg ?_) (by decide +kernel) char
  exact fun capital => other ⟨capital.1, Nat.lt_succ_of_le capital.2⟩

/-! ## Texts -/

/-- Without a capital sigma each character is lowered by itself. -/
theorem lower_eq_flatMap_lowerAlone {text : Text} (noSigma : 'Σ' ∉ text) : lower text = text.flatMap lowerAlone := by
  have general : ∀ before, lowerAfter before text = text.flatMap lowerAlone := by
    induction text with
    | nil => exact fun _ => rfl
    | cons char text ih =>
        obtain ⟨other, noSigma⟩ := List.ne_and_not_mem_of_not_mem_cons noSigma
        intro before
        rw [lowerAfter, lowerBetween_eq_lowerAlone (Ne.symm other), ih noSigma, List.flatMap_cons]
  exact general []

/-- A capital sigma is lowered to one of the two small ones. -/
theorem mem_lower_of_sigma {text : Text} (sigma : 'Σ' ∈ text) : 'ς' ∈ lower text ∨ 'σ' ∈ lower text := by
  have general : ∀ before, 'ς' ∈ lowerAfter before text ∨ 'σ' ∈ lowerAfter before text := by
    induction text with
    | nil => cases sigma
    | cons char text ih =>
        intro before
        simp only [lowerAfter, List.mem_append]
        rcases List.mem_cons.mp sigma with rfl | later
        · have own : lowerBetween before 'Σ' text = [if endsWord before text then 'ς' else 'σ'] := rfl
          rw [own]
          split <;> simp
        · exact (ih later (char :: before)).imp .inr .inr
  exact general []

namespace Restyle

variable {text restyled : Text}

theorem sigma_mem_iff (change : Restyle text restyled) : 'Σ' ∈ restyled ↔ 'Σ' ∈ text := by
  cases change with
  | inserted ignored | deleted ignored =>
      have other := (lowerAlone_of_isIgnored ignored).1
      simp [List.mem_append, Ne.symm other]
  | @raised before after char =>
      simp [List.mem_append, eq_comm (a := 'Σ'), (lowerAlone_toUpper char).1]
  | @lowered before after char =>
      simp [List.mem_append, eq_comm (a := 'Σ'), (lowerAlone_toLower char).1]

end Restyle
end Text

/-! ## Cleaned texts -/

namespace Notation

theorem cleaned_eq_flatMap {text : Text} (noSigma : 'Σ' ∉ text) :
    cleaned text = text.flatMap fun char => (Text.lowerAlone char).filter fun lowered => !Text.isIgnored lowered := by
  rw [cleaned, Text.lower_eq_flatMap_lowerAlone noSigma, List.filter_flatMap]

theorem cleaned_of_restyle {text restyled : Text} (change : Text.Restyle text restyled) (noSigma : 'Σ' ∉ text) :
    cleaned restyled = cleaned text := by
  have later : 'Σ' ∉ restyled := mt change.sigma_mem_iff.mp noSigma
  rw [cleaned_eq_flatMap noSigma, cleaned_eq_flatMap later]
  cases change with
  | inserted ignored | deleted ignored =>
      simp [(Text.lowerAlone_of_isIgnored ignored).2, ignored]
  | @raised before after char => simp [(Text.lowerAlone_toUpper char).2]
  | @lowered before after char => simp [(Text.lowerAlone_toLower char).2]

/-- However often a text is restyled, it has a capital sigma throughout or the same cleaned text throughout. -/
theorem cleaned_of_restyled {text restyled : Text} (changes : Relation.ReflTransGen Text.Restyle text restyled) :
    ('Σ' ∈ restyled ↔ 'Σ' ∈ text) ∧ ('Σ' ∉ text → cleaned restyled = cleaned text) := by
  induction changes with
  | refl => exact ⟨Iff.rfl, fun _ => rfl⟩
  | @tail middle restyled _ change ih =>
      obtain ⟨same, alike⟩ := ih
      refine ⟨change.sigma_mem_iff.trans same, fun noSigma => ?_⟩
      rw [cleaned_of_restyle change (mt same.mp noSigma), alike noSigma]

end Notation

/-! ## Reading -/

namespace Bag

variable {State : Type} {desk : Desk State} {text restyled : Text}

theorem not_exists_ofText_of_sigma (sigma : 'Σ' ∈ text) : ¬ ∃ bag, ofText text = .ok bag := by
  intro given
  obtain ⟨bag, read⟩ := given
  obtain ⟨tokens, written, _⟩ := ofText_eq_ok_iff.mp read
  have outside : ∀ char ∈ ['ς', 'σ'], char ∉ Notation.allowedCharacters ∧ Text.isIgnored char = false :=
    List.forall_mem_cons.mpr ⟨⟨by decide, by decide⟩, List.forall_mem_singleton.mpr ⟨by decide, by decide⟩⟩
  have absent : ∀ char ∈ ['ς', 'σ'], char ∉ Text.lower text := by
    intro char member lowered
    obtain ⟨foreign, visible⟩ := outside char member
    exact foreign (written.allowed char (List.mem_filter.mpr ⟨lowered, by simp [visible]⟩))
  rcases Text.mem_lower_of_sigma sigma with final | inner
  · exact absent 'ς' (by simp) final
  · exact absent 'σ' (by simp) inner

theorem reading_of_ofText_eq (same : ofText restyled = ofText text) : reading desk restyled = reading desk text := by
  have remarks : RemarkFits desk.journal restyled ↔ RemarkFits desk.journal text := by
    rw [RemarkFits, RemarkFits, same]
  by_cases fits : RemarkFits desk.journal text
  · rw [reading_of_fits fits, reading_of_fits (remarks.mpr fits), same]
  · rw [reading_of_not_remarkFits fits, reading_of_not_remarkFits (mt remarks.mp fits)]

/-- A restyled text is read as the same bag or fails to be read in both styles, and without a capital sigma it fails
for the same cause with the same message. -/
theorem reading_restyled (changes : Relation.ReflTransGen Text.Restyle text restyled) (desk : Desk State) :
    ((∃ bag, reading desk text = .ok bag ∧ reading desk restyled = .ok bag) ∨
        (∃ failure, reading desk text = .error failure) ∧ ∃ failure, reading desk restyled = .error failure) ∧
      ('Σ' ∉ text → reading desk restyled = reading desk text) := by
  obtain ⟨sigmas, cleans⟩ := Notation.cleaned_of_restyled changes
  have alike : 'Σ' ∉ text → reading desk restyled = reading desk text := by
    intro noSigma
    refine reading_of_ofText_eq ?_
    simp only [ofText, Token.listOfText, cleans noSigma]
  refine ⟨?_, alike⟩
  by_cases sigma : 'Σ' ∈ text
  · have fails : ∀ {styled : Text}, 'Σ' ∈ styled → ∃ failure, reading desk styled = .error failure := by
      intro styled present
      cases outcome : reading desk styled with
      | error failure => exact ⟨failure, rfl⟩
      | ok bag => exact absurd ⟨bag, (reading_eq_ok_iff.mp outcome).1⟩ (not_exists_ofText_of_sigma present)
    exact .inr ⟨fails sigma, fails (sigmas.mpr sigma)⟩
  · rw [alike sigma]
    cases reading desk text with
    | ok bag => exact .inl ⟨bag, rfl, rfl⟩
    | error failure => exact .inr ⟨⟨failure, rfl⟩, ⟨failure, rfl⟩⟩

/-- Ten dice that keep their two highest rolls, with a blank inside the count and a capital inside the code. -/
theorem reading_restyled_count_and_code :
    let desk : Desk Unit := { source := () }
    let bag : Bag := { groups := [.dice { size := 6, count := 10, drop := .lowest 8 }] }
    Relation.ReflTransGen Text.Restyle (Text.of "10d6kh2") (Text.of "1 0d6kH2") ∧ 'Σ' ∉ Text.of "10d6kh2" ∧
      reading desk (Text.of "10d6kh2") = .ok bag ∧ reading desk (Text.of "1 0d6kH2") = .ok bag := by
  intro desk bag
  have blank : Text.Restyle (Text.of "10d6kh2") (Text.of "1 0d6kh2") :=
    @Text.Restyle.inserted ['1'] (Text.of "0d6kh2") ' ' rfl
  have capital : Text.Restyle (Text.of "1 0d6kh2") (Text.of "1 0d6kH2") :=
    @Text.Restyle.raised (Text.of "1 0d6k") ['2'] 'h'
  have changes := (Relation.ReflTransGen.single blank).tail capital
  have noSigma : 'Σ' ∉ Text.of "10d6kh2" := by decide
  have read : reading desk (Text.of "10d6kh2") = .ok bag := by
    rw [reading_of_fits fun _ _ kept => by cases kept]
    decide +kernel
  exact ⟨changes, noSigma, read, ((reading_restyled changes desk).2 noSigma).trans read⟩

end Bag
end DiceNotation
