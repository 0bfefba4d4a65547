import DiceNotation.Proofs.Bag.Reading

/-!
# Bags that are written and read back

The expression for a well-formed bag is one of the grammar, and its tokens are those that the groups of the bag
stand for. So reading gives the bag back. No other bag comes back, because the bag of every expression is well
formed.
-/

set_option autoImplicit false

namespace DiceNotation

/-! ## Bounds of a bag -/

/-- The numbers in a drop. -/
def Drop.numbers : Drop → List Int
  | .none => []
  | .lowest number => [number]
  | .highest number => [number]
  | .keeping positions => positions

/-- The numbers in a reroll. -/
def Reroll.numbers : Reroll → List Int
  | .never count => [count]
  | .above count threshold => [count, threshold]
  | .below count threshold => [count, threshold]

/-- The numbers in a cutoff. -/
def Cutoff.numbers : Cutoff → List Int
  | .none => []
  | .minimum least => [least]
  | .maximum greatest => [greatest]
  | .between least greatest => [least, greatest]

/-- The numbers in a die group. -/
def Die.numbers (die : Die) : List Int :=
  [die.size, (die.count : Int)] ++ die.drop.numbers ++ die.reroll.numbers ++ die.cutoff.numbers

/-- No number is too long to be written, and no list of kept positions is longer than a list can be. -/
structure Die.Bounded (die : Die) : Prop where
  short : ∀ number ∈ die.numbers, Numeral.fits number = true
  few : ∀ positions, die.drop = .keeping positions → positions.length ≤ positionLimit

def Group.Bounded : Group → Prop
  | .dice die => die.Bounded
  | .bonus flat => Numeral.fits flat.value = true

def Bag.Bounded (bag : Bag) : Prop :=
  ∀ group ∈ bag.groups, group.Bounded

namespace Die.Bounded

variable {die : Die} (bounded : die.Bounded)
include bounded

theorem size : Numeral.fits die.size = true :=
  bounded.short _ (by simp [Die.numbers])

theorem count : Numeral.fits die.count = true :=
  bounded.short _ (by simp [Die.numbers])

theorem drop {number : Int} (member : number ∈ die.drop.numbers) : Numeral.fits number = true :=
  bounded.short _ (by simp [Die.numbers, member])

theorem reroll {number : Int} (member : number ∈ die.reroll.numbers) :
    Numeral.fits number = true :=
  bounded.short _ (by simp [Die.numbers, member])

theorem cutoff {number : Int} (member : number ∈ die.cutoff.numbers) :
    Numeral.fits number = true :=
  bounded.short _ (by simp [Die.numbers, member])

end Die.Bounded

/-! ## Modifiers that can be written -/

/-- A modifier whose number is a numeral. -/
structure Modifier.Writable (modifier : Modifier) : Prop where
  nonneg : 0 ≤ modifier.value
  short : Numeral.fits modifier.value = true

theorem Drop.writable_of_mem_modifiers {drop : Drop} {count : Nat} {modifier : Modifier}
    (fits : drop.Fits count) (short : ∀ number ∈ drop.numbers, Numeral.fits number = true)
    (countShort : Numeral.fits count = true) (member : modifier ∈ drop.modifiers count) :
    modifier.Writable := by
  cases drop with
  | none => cases member
  | lowest number =>
      obtain rfl := List.mem_singleton.mp member
      exact ⟨fits.1, short number List.mem_cons_self⟩
  | highest number =>
      obtain rfl := List.mem_singleton.mp member
      exact ⟨fits.1, short number List.mem_cons_self⟩
  | keeping positions =>
      obtain ⟨lowest, highest, below, rfl⟩ := fits
      rw [Die.modifiers_keeping_positionsFrom (by omega)] at member
      rcases List.mem_pair.mp member with rfl | rfl
      · exact ⟨Int.natCast_nonneg _,
          Numeral.fits_of_le (Int.natCast_nonneg _) (by simp only; omega) countShort⟩
      · exact ⟨Int.natCast_nonneg _,
          Numeral.fits_of_le (Int.natCast_nonneg _) (by simp only; omega) countShort⟩

theorem Reroll.writable_of_mem_modifiers {reroll : Reroll} {size : Int} {count : Nat}
    {modifier : Modifier} (fits : reroll.Fits size count)
    (short : ∀ number ∈ reroll.numbers, Numeral.fits number = true)
    (member : modifier ∈ reroll.modifiers) : modifier.Writable := by
  cases reroll with
  | never count => cases member
  | above count threshold =>
      obtain ⟨nonneg, _, atLeast, _⟩ := fits
      rcases List.mem_pair.mp member with rfl | rfl
      · exact ⟨nonneg, short count (by simp [Reroll.numbers])⟩
      · exact ⟨Int.le_trans (by decide) atLeast, short threshold (by simp [Reroll.numbers])⟩
  | below count threshold =>
      obtain ⟨nonneg, _, above, _⟩ := fits
      rcases List.mem_pair.mp member with rfl | rfl
      · exact ⟨nonneg, short count (by simp [Reroll.numbers])⟩
      · exact ⟨by simp only; omega, short threshold (by simp [Reroll.numbers])⟩

theorem Cutoff.writable_of_mem_modifiers {cutoff : Cutoff} {size : Int} {modifier : Modifier}
    (fits : cutoff.Fits size) (short : ∀ number ∈ cutoff.numbers, Numeral.fits number = true)
    (member : modifier ∈ cutoff.modifiers) : modifier.Writable := by
  cases cutoff with
  | none => cases member
  | minimum least =>
      obtain ⟨above, _⟩ := fits
      obtain rfl := List.mem_singleton.mp member
      exact ⟨by simp only; omega, short least (by simp [Cutoff.numbers])⟩
  | maximum greatest =>
      obtain ⟨atLeast, _⟩ := fits
      obtain rfl := List.mem_singleton.mp member
      exact ⟨by simp only; omega, short greatest (by simp [Cutoff.numbers])⟩
  | between least greatest =>
      obtain ⟨above, ordered, _⟩ := fits
      rcases List.mem_pair.mp member with rfl | rfl
      · exact ⟨by simp only; omega, short least (by simp [Cutoff.numbers])⟩
      · exact ⟨by simp only; omega, short greatest (by simp [Cutoff.numbers])⟩

theorem Die.writable_of_mem_modifiers {die : Die} {modifier : Modifier} (formed : die.WellFormed)
    (bounded : die.Bounded) (member : modifier ∈ die.modifiers) : modifier.Writable := by
  rcases List.mem_append.mp member with member | member
  · rcases List.mem_append.mp member with member | member
    · exact Drop.writable_of_mem_modifiers formed.drop (fun _ => bounded.drop) bounded.count member
    · exact Reroll.writable_of_mem_modifiers formed.reroll (fun _ => bounded.reroll) member
  · exact Cutoff.writable_of_mem_modifiers formed.cutoff (fun _ => bounded.cutoff) member

theorem Modifier.writes_phrase {modifiers : List Modifier}
    (writable : ∀ modifier ∈ modifiers, modifier.Writable) :
    Grammar.WritesModifiers (Phrase.text (modifiers.flatMap Modifier.phrase)) modifiers := by
  induction modifiers with
  | nil => exact .nil
  | cons modifier modifiers ih =>
      obtain ⟨kind, value⟩ := modifier
      obtain ⟨nonneg, short⟩ := writable _ List.mem_cons_self
      have rest := ih fun other member => writable other (List.mem_cons_of_mem _ member)
      have written := @Grammar.WritesModifiers.cons kind _ _ _
        (Numeral.isNumeral_write nonneg short) rest
      rw [Numeral.value_write nonneg, Int.toNat_of_nonneg nonneg] at written
      simpa [Phrase.text, Modifier.phrase, Piece.write] using written

/-! ## The tokens of a bag -/

namespace Group

/-- The token that a group is written as. -/
def token (group : Group) : Token where
  sign := group.sign
  text := group.phrase.text
  body :=
    match group with
    | .bonus flat => .bonus flat.value.toNat
    | .dice die => .dice die.count die.size.toNat die.explosive die.modifiers

theorem writesGroup_token {group : Group} (formed : group.WellFormed) (bounded : group.Bounded) :
    Grammar.WritesGroup group.token.text group.token.body := by
  cases group with
  | bonus flat =>
      have written := Grammar.WritesGroup.bonus (Numeral.isNumeral_write formed bounded)
      rw [Numeral.value_write formed] at written
      simpa [token, phrase, Phrase.text, Piece.write] using written
  | dice die =>
      have positive : 0 ≤ die.size := Int.le_trans (by decide) formed.size
      have count := Grammar.WritesCount.numeral
        (Numeral.isNumeral_write (Int.natCast_nonneg die.count) bounded.count)
      rw [Numeral.value_write (Int.natCast_nonneg _), Int.toNat_natCast] at count
      have mark : Grammar.WritesMark
          (Phrase.text (if die.explosive then [.word ['!']] else [])) die.explosive := by
        cases die.explosive
        · exact .absent
        · exact .present
      have written := Grammar.WritesGroup.dice count (Numeral.isNumeral_write positive bounded.size)
        (by
          rw [Numeral.value_write positive]
          exact Int.le_toNat positive |>.mpr formed.size)
        (Modifier.writes_phrase fun _ => die.writable_of_mem_modifiers formed bounded) mark
      rw [Numeral.value_write positive] at written
      simpa only [token, phrase, Die.phrase, Phrase.text, Piece.write, List.flatMap_append,
        List.flatMap_cons, List.flatMap_nil, List.append_nil, List.append_assoc] using written

theorem ofToken_token {group : Group} (formed : group.WellFormed) (bounded : group.Bounded) :
    ofToken group.token = .ok group := by
  cases group with
  | bonus flat =>
      obtain ⟨value, sign⟩ := flat
      simp only [ofToken, token, Int.toNat_of_nonneg formed]
      rfl
  | dice die =>
      have positive : 0 ≤ die.size := Int.le_trans (by decide) formed.size
      have built := Die.addClauses_modifiers formed bounded.few
      simp only [ofToken, token, Int.toNat_of_nonneg positive, bind_eq_ok_iff, pure_eq_ok_iff]
      exact ⟨die, built, rfl⟩

theorem fits_of_mem_phrase {group : Group} (formed : group.WellFormed) (bounded : group.Bounded) :
    ∀ piece ∈ group.phrase, piece.fits = true := by
  intro piece member
  cases group with
  | bonus flat =>
      obtain rfl := List.mem_singleton.mp member
      exact bounded
  | dice die =>
      simp only [phrase, Die.phrase, List.mem_append, List.mem_flatMap] at member
      rcases member with (base | ⟨modifier, own, part⟩) | mark
      · simp only [List.mem_cons, List.not_mem_nil, or_false] at base
        rcases base with rfl | rfl | rfl
        · exact bounded.count
        · rfl
        · exact bounded.size
      · rcases List.mem_pair.mp part with rfl | rfl
        · rfl
        · exact (die.writable_of_mem_modifiers formed bounded own).short
      · split at mark
        · obtain rfl := List.mem_singleton.mp mark
          rfl
        · cases mark

end Group

/-! ## Reading what was written -/

namespace Bag

theorem write_eq_ok {bag : Bag} (formed : bag.WellFormed) (bounded : bag.Bounded) :
    bag.write = .ok bag.phrase.text := by
  obtain ⟨group, later, shape, plus⟩ := formed.first
  have own : ∀ other ∈ group :: later, ∀ piece ∈ other.phrase, piece.fits = true := by
    rw [← shape]
    exact fun other member =>
      Group.fits_of_mem_phrase (formed.groups other member) (bounded other member)
  refine Phrase.write_eq_ok_iff.mpr ⟨?_, rfl⟩
  rw [phrase, shape]
  simp only [plus, if_true]
  intro piece member
  rcases List.mem_append.mp member with first | rest
  · exact own group List.mem_cons_self piece first
  · obtain ⟨other, present, part⟩ := List.mem_flatMap.mp rest
    rcases List.mem_cons.mp part with rfl | part
    · rfl
    · exact own other (List.mem_cons_of_mem _ present) piece part

theorem text_signedPhrase (groups : List Group) :
    Phrase.text (groups.flatMap Group.signedPhrase) = Token.spelledLater (groups.map Group.token) := by
  induction groups with
  | nil => rfl
  | cons group groups ih =>
      rw [List.flatMap_cons, Phrase.text_append, ih]
      rfl

/-- The expression for a well-formed bag, with the tokens that its groups stand for. -/
theorem writes_phrase {bag : Bag} (formed : bag.WellFormed) (bounded : bag.Bounded) :
    Grammar.Writes bag.phrase.text (bag.groups.map Group.token) := by
  obtain ⟨group, later, shape, plus⟩ := formed.first
  refine Grammar.writes_iff.mpr ⟨⟨group.token, later.map Group.token, ?_, plus⟩, ?_, ?_⟩
  · rw [shape, List.map_cons]
  · intro token member
    obtain ⟨other, present, rfl⟩ := List.mem_map.mp member
    exact Group.writesGroup_token (formed.groups other present) (bounded other present)
  · rw [phrase, shape]
    simp only [plus, if_true]
    rw [Phrase.text_append, text_signedPhrase]
    rfl

theorem ofText_phrase {bag : Bag} (formed : bag.WellFormed) (bounded : bag.Bounded) :
    ofText bag.phrase.text = .ok bag := by
  have written := writes_phrase formed bounded
  rw [← Notation.cleaned_of_allowed written.allowed] at written
  refine ofText_eq_ok_iff.mpr ⟨_, written, ?_⟩
  rw [List.forall₂_map_left_iff, List.forall₂_same]
  exact fun group member => Group.ofToken_token (formed.groups group member) (bounded group member)

/-- Writing a bag and reading the expression gives the same bag exactly when it is well formed. -/
theorem ofText_write_eq_ok_iff (bag : Bag) (bounded : bag.Bounded) :
    (bag.write >>= ofText) = .ok bag ↔ bag.WellFormed := by
  constructor
  · intro same
    obtain ⟨text, _, read⟩ := bind_eq_ok_iff.mp same
    exact wellFormed_of_ofText read
  · intro formed
    rw [write_eq_ok formed bounded]
    exact ofText_phrase formed bounded

end Bag
end DiceNotation
