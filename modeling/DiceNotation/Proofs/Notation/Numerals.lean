import DiceNotation.Phrase
import DiceNotation.Proofs.Notation.Modifiers

/-!
# Written numbers are numerals

A number that is not negative and not too long is written as a numeral of the grammar, which stands for it.
-/

set_option autoImplicit false

namespace DiceNotation.Numeral

open Notation

private theorem digitValue?_of_ascii {char : Char} (atLeast : '0' ≤ char) (atMost : char ≤ '9') :
    Text.digitValue? char = some (char.toNat - '0'.toNat) := by
  have low : 0x30 ≤ char.toNat := atLeast
  have high : char.toNat ≤ 0x39 := atMost
  simp [Text.digitValue?, Text.zeroDigits, low, high]

private theorem foldl_eq_ofDigitChars {run : Text}
    (ascii : ∀ char ∈ run, '0' ≤ char ∧ char ≤ '9') (total : Nat) :
    run.foldl (fun total digit => 10 * total + (Text.digitValue? digit).getD 0) total =
      Nat.ofDigitChars 10 run total := by
  induction run generalizing total with
  | nil => rfl
  | cons char run ih =>
      obtain ⟨atLeast, atMost⟩ := ascii char List.mem_cons_self
      rw [List.foldl_cons, Nat.ofDigitChars_cons, digitValue?_of_ascii atLeast atMost,
        Option.getD_some]
      exact ih (fun other member => ascii other (List.mem_cons_of_mem _ member)) _

private theorem digitValue_lt_ten {char : Char} (atLeast : '0' ≤ char) (atMost : char ≤ '9') :
    (Text.digitValue? char).getD 0 < 10 := by
  have zero : '0'.toNat = 0x30 := rfl
  have high : char.toNat ≤ 0x39 := atMost
  rw [digitValue?_of_ascii atLeast atMost, Option.getD_some]
  omega

private theorem powerOfTen_succ (exponent : Nat) :
    powerOfTen (exponent + 1) = 10 * powerOfTen exponent :=
  Nat.pow_succ'

private theorem foldl_lt {run : Text} (ascii : ∀ char ∈ run, '0' ≤ char ∧ char ≤ '9')
    (total : Nat) :
    run.foldl (fun total digit => 10 * total + (Text.digitValue? digit).getD 0) total <
      (total + 1) * powerOfTen run.length := by
  induction run generalizing total with
  | nil => exact Nat.lt_of_lt_of_eq (Nat.lt_succ_self _) (Nat.mul_one _).symm
  | cons char run ih =>
      obtain ⟨atLeast, atMost⟩ := ascii char List.mem_cons_self
      have digit := digitValue_lt_ten atLeast atMost
      rw [List.foldl_cons, List.length_cons, powerOfTen_succ, ← Nat.mul_assoc]
      refine Nat.lt_of_lt_of_le (ih (fun other member => ascii other (List.mem_cons_of_mem _ member)) _) ?_
      exact Nat.mul_le_mul_right _ (by omega)

-- The limit is a variable here, so that nothing works out a power with thousands of digits.
private theorem value_lt_powerOfTen {run : Text} {limit : Nat}
    (ascii : ∀ char ∈ run, '0' ≤ char ∧ char ≤ '9') (short : run.length ≤ limit) :
    value run < powerOfTen limit := by
  have below := foldl_lt ascii 0
  rw [Nat.zero_add, Nat.one_mul] at below
  exact Nat.lt_of_lt_of_le below (Nat.pow_le_pow_right (by decide) short)

/-- A number short enough to be read is short enough to be written. -/
theorem fits_value {run : Text} (valid : Grammar.IsNumeral run) : fits (value run) = true :=
  decide_eq_true (value_lt_powerOfTen valid.digits valid.short)

theorem isDigit_of_mem_digits {number : Nat} {char : Char} (member : char ∈ digits number) : char.isDigit = true :=
  Nat.isDigit_of_mem_toDigits (by decide) (by decide) member

private theorem ascii_of_mem_digits {number : Nat} {char : Char} (member : char ∈ digits number) :
    '0' ≤ char ∧ char ≤ '9' := by
  simpa [Char.isDigit, Char.le_def] using isDigit_of_mem_digits member

theorem value_digits (number : Nat) : value (digits number) = number := by
  rw [value, foldl_eq_ofDigitChars fun _ => ascii_of_mem_digits]
  exact Nat.ofDigitChars_ten_toDigits

private theorem length_digits_le {number limit : Nat} (positive : 0 < limit)
    (small : number < powerOfTen limit) : (digits number).length ≤ limit := by
  rw [digits, Nat.length_toDigits_le_iff (by decide) positive]
  exact small

/-- A number short enough to be written is short enough to be read. -/
theorem isNumeral_digits {number : Nat} (short : fits number = true) :
    Grammar.IsNumeral (digits number) where
  nonempty := Nat.toDigits_ne_nil
  digits := fun _ => ascii_of_mem_digits
  short := length_digits_le (by decide) (of_decide_eq_true short)

theorem write_of_nonneg {number : Int} (nonneg : 0 ≤ number) :
    write number = digits number.toNat := by
  cases number with
  | ofNat number => rfl
  | negSucc number => omega

theorem isNumeral_write {number : Int} (nonneg : 0 ≤ number) (short : fits number = true) :
    Grammar.IsNumeral (write number) := by
  rw [write_of_nonneg nonneg]
  refine isNumeral_digits ?_
  rw [Int.toNat_of_nonneg nonneg]
  exact short

theorem value_write {number : Int} (nonneg : 0 ≤ number) : value (write number) = number.toNat := by
  rw [write_of_nonneg nonneg, value_digits]

theorem fits_of_le {number bound : Int} (nonneg : 0 ≤ number) (most : number ≤ bound)
    (short : fits bound = true) : fits number = true := by
  simp only [fits, decide_eq_true_eq] at short ⊢
  omega

end DiceNotation.Numeral
