import DiceNotation.Proofs.Bag.Reading
import DiceNotation.Proofs.Play.Totals

/-!
# The structural range

The range of a bag takes a subtracted group off both ends and puts the ends in order, so a subtraction can make it
narrower than the totals are. It is compared here with the least interval that holds all totals: the two have the
same middle all along, and once the range is narrower it stays narrower.
-/

set_option autoImplicit false

namespace DiceNotation

namespace Span

/-! ## The hull of the totals -/

/-- The interval of totals after one more group when the ends may come up together in any way. -/
def extend (span : Span) (group : Group) : Span :=
  match group.sign with
  | .plus => ⟨span.low + (ofGroup group).low, span.high + (ofGroup group).high⟩
  | .minus => ⟨span.low - (ofGroup group).high, span.high - (ofGroup group).low⟩

theorem ofGroup_ordered {group : Group} (formed : group.WellFormed) :
    (ofGroup group).low ≤ (ofGroup group).high := by
  cases group with
  | bonus flat => exact Int.le_refl _
  | dice die =>
      have positive : 1 ≤ die.size := formed.size
      obtain ⟨atLeast, atMost⟩ := Cutoff.clamp_mem_bounds formed.cutoff (Int.le_refl 1) positive
      exact Int.mul_le_mul_of_nonneg_right (Int.le_trans atLeast atMost) die.keptCount_nonneg

variable {groups : List Group} {limit : Int}

theorem inside_foldl_extend (formed : ∀ group ∈ groups, group.WellFormed)
    (plain : ∀ group ∈ groups, group.Plain) {span : Span} {total final : Int}
    (reach : CanReach limit total groups final) (inside : span.low ≤ total ∧ total ≤ span.high) :
    (groups.foldl extend span).low ≤ final ∧ final ≤ (groups.foldl extend span).high := by
  induction reach generalizing span with
  | done => exact inside
  | @add total worth final group groups yields _ ih =>
      have own := yields.inside (formed group List.mem_cons_self) (plain group List.mem_cons_self)
      refine ih (fun other member => formed other (List.mem_cons_of_mem _ member))
        (fun other member => plain other (List.mem_cons_of_mem _ member)) ?_
      rw [extend]
      cases group.sign <;> simp only [Sign.apply] <;> omega

/-- Both ends of the hull come up. -/
theorem canReach_foldl_extend (formed : ∀ group ∈ groups, group.WellFormed)
    (plain : ∀ group ∈ groups, group.Plain) (limit : Int) (span : Span) :
    CanReach limit span.low groups (groups.foldl extend span).low ∧
      CanReach limit span.high groups (groups.foldl extend span).high := by
  induction groups generalizing span with
  | nil => exact ⟨.done, .done⟩
  | cons group groups ih =>
      obtain ⟨low, high⟩ := Group.canYield_ends (formed group List.mem_cons_self)
        (plain group List.mem_cons_self) limit
      have later := ih (fun other member => formed other (List.mem_cons_of_mem _ member))
        (fun other member => plain other (List.mem_cons_of_mem _ member)) (span.extend group)
      rw [List.foldl_cons]
      cases sign : group.sign with
      | plus =>
          simp only [extend, sign] at later ⊢
          exact ⟨.add low (by rw [sign]; exact later.1), .add high (by rw [sign]; exact later.2)⟩
      | minus =>
          simp only [extend, sign] at later ⊢
          exact ⟨.add high (by rw [sign]; exact later.1), .add low (by rw [sign]; exact later.2)⟩

/-! ## Range and hull -/

/-- A range beside the hull: the middle is the same, and the range is not wider. -/
structure Beside (range hull : Span) : Prop where
  ordered : range.low ≤ range.high
  middle : range.low + range.high = hull.low + hull.high
  narrower : range.high - range.low ≤ hull.high - hull.low

theorem Beside.eq_iff {range hull : Span} (beside : range.Beside hull) :
    range = hull ↔ range.low ≤ hull.low ∧ hull.high ≤ range.high := by
  obtain ⟨_, middle, narrower⟩ := beside
  constructor
  · rintro rfl
    exact ⟨Int.le_refl _, Int.le_refl _⟩
  · intro given
    obtain ⟨low, high⟩ := given
    obtain ⟨rangeLow, rangeHigh⟩ := range
    obtain ⟨hullLow, hullHigh⟩ := hull
    simp only at middle narrower low high
    rw [Span.mk.injEq]
    omega

/-- One more group keeps the range beside the hull, and they stay equal unless an interval is taken off another. -/
theorem Beside.add {range hull : Span} {group : Group} (beside : range.Beside hull)
    (own : (ofGroup group).low ≤ (ofGroup group).high) :
    (range.add group).Beside (hull.extend group) ∧
      (range.add group = hull.extend group ↔ range = hull ∧
        (group.sign = .minus → (ofGroup group).low = (ofGroup group).high ∨ range.low = range.high)) := by
  obtain ⟨ordered, middle, narrower⟩ := beside
  obtain ⟨rangeLow, rangeHigh⟩ := range
  obtain ⟨hullLow, hullHigh⟩ := hull
  simp only at ordered middle narrower
  cases sign : group.sign with
  | plus =>
      simp only [Span.add, extend, sign, Sign.apply, Span.ordered, reduceCtorEq, false_implies, and_true]
      rw [if_neg (by omega)]
      refine ⟨⟨?_, ?_, ?_⟩, ?_⟩ <;> simp only [Span.mk.injEq] <;> omega
  | minus =>
      -- The new width of the range is the distance of two widths, that of the hull is their sum.
      simp only [Span.add, extend, sign, Sign.apply, Span.ordered, true_implies]
      split
      · refine ⟨⟨?_, ?_, ?_⟩, ?_⟩ <;> simp only [Span.mk.injEq] <;> omega
      · refine ⟨⟨?_, ?_, ?_⟩, ?_⟩ <;> simp only [Span.mk.injEq] <;> omega

theorem Beside.foldl {range hull : Span} (beside : range.Beside hull)
    (formed : ∀ group ∈ groups, group.WellFormed) :
    (groups.foldl Span.add range).Beside (groups.foldl extend hull) ∧
      (groups.foldl Span.add range = groups.foldl extend hull ↔ range = hull ∧
        ∀ before group later, groups = before ++ group :: later → group.sign = .minus →
          (ofGroup group).low = (ofGroup group).high ∨
            (before.foldl Span.add range).low = (before.foldl Span.add range).high) := by
  -- Both intervals stay free: the groups before a later one have been folded into them.
  induction groups generalizing range hull with
  | nil => exact ⟨beside, by simp⟩
  | cons group groups ih =>
      obtain ⟨next, sameNext⟩ := beside.add (ofGroup_ordered (formed group List.mem_cons_self))
      obtain ⟨last, sameLast⟩ := ih next fun other member => formed other (List.mem_cons_of_mem _ member)
      refine ⟨last, ?_⟩
      rw [List.foldl_cons, List.foldl_cons, sameLast, sameNext]
      constructor
      · intro given
        obtain ⟨⟨same, own⟩, others⟩ := given
        refine ⟨same, ?_⟩
        intro before other later split minus
        cases before with
        | nil =>
            obtain ⟨rfl, rfl⟩ := List.cons.inj split
            exact own minus
        | cons first before =>
            obtain ⟨rfl, rest⟩ := List.cons.inj split
            exact others before other later rest minus
      · intro given
        obtain ⟨same, all⟩ := given
        refine ⟨⟨same, all [] group groups rfl⟩, ?_⟩
        intro before other later split minus
        exact all (group :: before) other later (by rw [split, List.cons_append]) minus

end Span

/-! ## The range of a bag -/

namespace Bag

/-- No group with a choice of worths is taken off a choice of totals. -/
def KeepsWidth (bag : Bag) : Prop :=
  ∀ before group later, bag.groups = before ++ group :: later → group.sign = .minus →
    (Span.ofGroup group).low = (Span.ofGroup group).high ∨
      (Span.ofGroups before).low = (Span.ofGroups before).high

/-- The range of a bag that was read and has no exploding dice holds every total that can come up exactly when no
subtraction narrows it, and then both of its ends come up. -/
theorem range_holds_totals_iff_keepsWidth {text : Text} {bag : Bag} (read : ofText text = .ok bag)
    (plain : ∀ group ∈ bag.groups, group.Plain) (limit : Int) :
    ((∀ total, bag.CanTotal limit total → bag.range.low ≤ total ∧ total ≤ bag.range.high) ↔
        bag.KeepsWidth) ∧
      (bag.KeepsWidth →
        bag.CanTotal limit bag.range.low ∧ bag.CanTotal limit bag.range.high) := by
  have formed := (wellFormed_of_ofText read).groups
  let hull := bag.groups.foldl Span.extend ⟨0, 0⟩
  have start : Span.Beside ⟨0, 0⟩ ⟨0, 0⟩ := ⟨Int.le_refl _, rfl, Int.le_refl _⟩
  obtain ⟨beside, same⟩ := start.foldl formed
  have same : bag.range = hull ↔ bag.KeepsWidth := same.trans (and_iff_right rfl)
  obtain ⟨low, high⟩ := Span.canReach_foldl_extend formed plain limit ⟨0, 0⟩
  have low : bag.CanTotal limit hull.low := (canTotal_iff_canReach formed).mpr low
  have high : bag.CanTotal limit hull.high := (canTotal_iff_canReach formed).mpr high
  refine ⟨⟨?_, ?_⟩, ?_⟩
  · intro holds
    exact same.mp (beside.eq_iff.mpr ⟨(holds _ low).1, (holds _ high).2⟩)
  · intro keeps total comes
    rw [same.mpr keeps]
    exact Span.inside_foldl_extend formed plain ((canTotal_iff_canReach formed).mp comes)
      ⟨Int.le_refl _, Int.le_refl _⟩
  · intro keeps
    rw [same.mpr keeps]
    exact ⟨low, high⟩

/-- Three dice without their lowest roll, less a bonus of two: all totals lie between zero and ten, and both come
up. -/
theorem range_holds_totals_drop_less_bonus :
    let bag : Bag :=
      { groups := [.dice { size := 6, count := 3, drop := .lowest 1 },
          .bonus { value := 2, sign := .minus }] }
    ofText (Text.of "3d6dl1-2") = .ok bag ∧
      (∀ total, bag.CanTotal 100 total → 0 ≤ total ∧ total ≤ 10) ∧
      bag.CanTotal 100 0 ∧ bag.CanTotal 100 10 := by
  intro bag
  have read : ofText (Text.of "3d6dl1-2") = .ok bag := by decide +kernel
  have plain : ∀ group ∈ bag.groups, group.Plain := by
    intro group member
    rcases List.mem_pair.mp member with rfl | rfl
    · rfl
    · trivial
  have keeps : bag.KeepsWidth := by
    intro before group later split minus
    rcases before with _ | ⟨first, _ | ⟨second, before⟩⟩
    · obtain ⟨rfl, _⟩ := List.cons.inj split
      cases minus
    · obtain ⟨_, rest⟩ := List.cons.inj split
      obtain ⟨rfl, _⟩ := List.cons.inj rest
      exact .inl rfl
    · simp [bag] at split
  obtain ⟨holds, ends⟩ := range_holds_totals_iff_keepsWidth read plain 100
  exact ⟨read, holds.mpr keeps, ends keeps⟩

end Bag
end DiceNotation
