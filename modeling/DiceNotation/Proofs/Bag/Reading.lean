import DiceNotation.Bag.Expression
import DiceNotation.Proofs.Die.Modifying
import DiceNotation.Proofs.Notation.Expressions
import DiceNotation.Proofs.Notation.Numerals

/-!
# Bags that are read are well formed

The numbers of an expression are not negative, its sizes are positive and its first group is added, and what its
modifiers ask for fits. So the bag of every expression is well formed.
-/

set_option autoImplicit false

namespace DiceNotation

theorem Grammar.WritesModifiers.nonneg {text : Text} {modifiers : List Modifier}
    (written : WritesModifiers text modifiers) : ∀ modifier ∈ modifiers, 0 ≤ modifier.value := by
  induction written with
  | nil => simp
  | cons _ _ ih => simpa using ih

namespace Group

theorem sign_of_ofToken {token : Token} {group : Group} (made : ofToken token = .ok group) :
    group.sign = token.sign := by
  obtain ⟨sign, text, body⟩ := token
  cases body with
  | bonus value =>
      cases made
      rfl
  | dice count size explosive modifiers =>
      simp only [ofToken, bind_eq_ok_iff, pure_eq_ok_iff] at made
      obtain ⟨die, built, rfl⟩ := made
      obtain ⟨drop, reroll, cutoff, rfl⟩ := Die.exists_clauses_of_addClauses built
      rfl

theorem wellFormed_of_ofToken {sign : Sign} {text : Text} {body : TokenBody} {group : Group}
    (written : Grammar.WritesGroup text body) (made : ofToken ⟨sign, text, body⟩ = .ok group) :
    group.WellFormed := by
  cases written with
  | bonus valid =>
      cases made
      exact Int.natCast_nonneg _
  | @dice countText _ _ _ count explosive modifiers _ _ positive modifiersWritten _ =>
      simp only [ofToken, bind_eq_ok_iff, pure_eq_ok_iff] at made
      obtain ⟨die, built, rfl⟩ := made
      have plain := Die.wellFormed_plain (Int.ofNat_le.mpr positive) count sign explosive
      exact plain.addClauses modifiersWritten.nonneg built

theorem fits_size_of_ofToken {sign : Sign} {text : Text} {body : TokenBody} {die : Die}
    (written : Grammar.WritesGroup text body) (made : ofToken ⟨sign, text, body⟩ = .ok (.dice die)) :
    Numeral.fits die.size = true := by
  cases written with
  | bonus _ => cases made
  | dice _ size _ _ _ =>
      simp only [ofToken, bind_eq_ok_iff, pure_eq_ok_iff, dice.injEq] at made
      obtain ⟨_, built, rfl⟩ := made
      obtain ⟨drop, reroll, cutoff, rfl⟩ := Die.exists_clauses_of_addClauses built
      exact Numeral.fits_value size

end Group

namespace Bag

theorem ofText_eq_ok_iff {text : Text} {bag : Bag} :
    ofText text = .ok bag ↔
      ∃ tokens, Grammar.Writes (Notation.cleaned text) tokens ∧
        List.Forall₂ (fun token group => Group.ofToken token = .ok group) tokens bag.groups := by
  simp only [ofText, bind_eq_ok_iff, pure_eq_ok_iff, mapM_eq_ok_iff]
  constructor
  · intro given
    obtain ⟨tokens, read, groups, made, rfl⟩ := given
    exact ⟨tokens, Token.writes_of_listOfText read, made⟩
  · intro given
    obtain ⟨tokens, written, made⟩ := given
    exact ⟨tokens, Token.listOfText_of_writes written, bag.groups, made, rfl⟩

/-- Every group of a bag that was read comes from a part of the expression. -/
theorem exists_token_of_ofText {text : Text} {bag : Bag} (read : ofText text = .ok bag) :
    ∀ group ∈ bag.groups, ∃ token : Token,
      Grammar.WritesGroup token.text token.body ∧ Group.ofToken token = .ok group := by
  obtain ⟨tokens, written, made⟩ := ofText_eq_ok_iff.mp read
  obtain ⟨-, groups, -⟩ := Grammar.writes_iff.mp written
  clear written
  generalize bag.groups = parts at made
  induction made with
  | nil => simp
  | @cons token group tokens parts own _ ih =>
      intro other member
      rcases List.mem_cons.mp member with rfl | member
      · exact ⟨token, groups token List.mem_cons_self, own⟩
      · exact ih (fun token present => groups token (List.mem_cons_of_mem _ present)) other member

theorem wellFormed_of_ofText {text : Text} {bag : Bag} (read : ofText text = .ok bag) :
    bag.WellFormed := by
  constructor
  · obtain ⟨tokens, written, made⟩ := ofText_eq_ok_iff.mp read
    obtain ⟨⟨first, later, rfl, plus⟩, _⟩ := Grammar.writes_iff.mp written
    obtain ⟨group, others, firstMade, _, same⟩ := List.forall₂_cons_left_iff.mp made
    exact ⟨group, others, same, (Group.sign_of_ofToken firstMade).trans plus⟩
  · intro group member
    obtain ⟨token, written, made⟩ := exists_token_of_ofText read group member
    exact Group.wellFormed_of_ofToken written made

/-- The sizes in a bag that was read can be written again. -/
theorem fits_size_of_ofText {text : Text} {bag : Bag} (read : ofText text = .ok bag) {die : Die}
    (member : .dice die ∈ bag.groups) : Numeral.fits die.size = true := by
  obtain ⟨token, written, made⟩ := exists_token_of_ofText read _ member
  exact Group.fits_size_of_ofToken written made

end Bag
end DiceNotation
