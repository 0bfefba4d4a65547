import DiceNotation.Proofs.Die.Modifying

/-!
# Agreeing modifiers

Whether the modifiers of a group are accepted, and which group they make, is told by the modifiers of each role
alone: the order in which they are written does not matter.
-/

set_option autoImplicit false

namespace DiceNotation

/-! ## Roles -/

/-- What a modifier settles about a group; no two modifiers may settle the same. -/
inductive ModifierKind.Role where
  | lowestDropped
  | highestDropped
  | rerollCount
  | rerollCondition
  | minimum
  | maximum
  deriving DecidableEq, Repr

def ModifierKind.role : ModifierKind → Role
  | dropLowest | keepHighest => .lowestDropped
  | dropHighest | keepLowest => .highestDropped
  | rerollCount => .rerollCount
  | rerollAbove | rerollBelow => .rerollCondition
  | cutoffMinimum => .minimum
  | cutoffMaximum => .maximum

def ModifierKind.Role.family : ModifierKind.Role → ModifierKind.Family
  | lowestDropped | highestDropped => .drop
  | rerollCount | rerollCondition => .reroll
  | minimum | maximum => .cutoff

theorem ModifierKind.family_role (kind : ModifierKind) : kind.role.family = kind.family := by
  cases kind <;> rfl

namespace Modifier

/-- The modifiers of one role, in order. -/
def ofRole (role : ModifierKind.Role) (modifiers : List Modifier) : List Modifier :=
  modifiers.filter fun modifier => decide (modifier.kind.role = role)

/-- How many of `count` rolls go; keeping some drops the others. -/
def dropped (count : Int) (modifier : Modifier) : Int :=
  match modifier.kind with
  | .keepHighest | .keepLowest => count - modifier.value
  | _ => modifier.value

/-- The number of the modifier lies in the bounds that a group with `count` dice of `size` sides sets. -/
def Suits (size count : Int) (modifier : Modifier) : Prop :=
  match modifier.kind with
  | .dropLowest | .dropHighest => modifier.value < count
  | .keepHighest | .keepLowest => 1 ≤ modifier.value ∧ modifier.value < count
  | .rerollCount => modifier.value ≤ count
  | .rerollAbove | .cutoffMaximum => 1 ≤ modifier.value ∧ modifier.value < size
  | .rerollBelow | .cutoffMinimum => 1 < modifier.value ∧ modifier.value ≤ size

/-- The modifiers go together: no role is filled twice, every number suits the group, both sides leave a die to
keep, a reroll has its count and its condition, and the cutoffs are not the wrong way round. -/
structure Agree (size count : Int) (modifiers : List Modifier) : Prop where
  once : ∀ role, (ofRole role modifiers).length ≤ 1
  suits : ∀ modifier ∈ modifiers, modifier.Suits size count
  ends : ∀ low ∈ ofRole .lowestDropped modifiers, ∀ high ∈ ofRole .highestDropped modifiers,
    low.dropped count + high.dropped count < count
  paired : ofRole .rerollCount modifiers = [] ↔ ofRole .rerollCondition modifiers = []
  ordered : ∀ least ∈ ofRole .minimum modifiers, ∀ greatest ∈ ofRole .maximum modifiers,
    least.value ≤ greatest.value

variable {size count : Int} {role : ModifierKind.Role} {modifiers permuted : List Modifier} {modifier : Modifier}

theorem mem_ofRole : modifier ∈ ofRole role modifiers ↔ modifier ∈ modifiers ∧ modifier.kind.role = role := by
  rw [ofRole, List.mem_filter, decide_eq_true_iff]

theorem ofRole_cons (modifier : Modifier) (modifiers : List Modifier) :
    ofRole role (modifier :: modifiers) = ofRole role [modifier] ++ ofRole role modifiers :=
  List.filter_append [modifier] modifiers

theorem ofRole_singleton : ofRole role [modifier] = if modifier.kind.role = role then [modifier] else [] := by
  simp only [ofRole, List.filter_cons, List.filter_nil, decide_eq_true_iff]

/-- A role that is filled once is filled by the same modifier in every order. -/
theorem ofRole_eq_of_perm (reordered : modifiers.Perm permuted) (once : (ofRole role modifiers).length ≤ 1) :
    ofRole role permuted = ofRole role modifiers := by
  have perm : (ofRole role modifiers).Perm (ofRole role permuted) := reordered.filter _
  match shape : ofRole role modifiers with
  | [] => exact (shape ▸ perm).nil_eq.symm
  | [only] => exact List.perm_singleton.mp (shape ▸ perm).symm
  | _ :: _ :: _ => simp [shape] at once

/-- Modifiers that go together do so in every order. -/
theorem Agree.perm (agree : Agree size count modifiers) (reordered : modifiers.Perm permuted) :
    Agree size count permuted := by
  have same (role : ModifierKind.Role) := ofRole_eq_of_perm reordered (agree.once role)
  constructor
  case once => simpa only [same] using agree.once
  case suits => exact fun modifier member => agree.suits modifier (reordered.mem_iff.mpr member)
  case ends => simpa only [same] using agree.ends
  case paired => simpa only [same] using agree.paired
  case ordered => simpa only [same] using agree.ordered

/-- A role that is filled once at most is one that a modifier fills or not. -/
theorem exists_toList_of_once (once : (ofRole role modifiers).length ≤ 1) :
    ∃ only : Option Modifier, ofRole role modifiers = only.toList := by
  match shape : ofRole role modifiers with
  | [] => exact ⟨none, rfl⟩
  | [only] => exact ⟨some only, rfl⟩
  | _ :: _ :: _ => simp [shape] at once

theorem suits_of_mem_ofRole {family : ModifierKind.Family}
    (suits : ∀ modifier ∈ modifiers, modifier.kind.family = family → modifier.Suits size count)
    (own : role.family = family) (member : modifier ∈ ofRole role modifiers) :
    modifier.Suits size count ∧ modifier.kind.role = role := by
  obtain ⟨inside, rfl⟩ := mem_ofRole.mp member
  exact ⟨suits modifier inside (ModifierKind.family_role modifier.kind ▸ own), rfl⟩

theorem Suits.dropped_bounds (own : modifier.kind.family = .drop) (suits : modifier.Suits size count)
    (nonneg : 0 ≤ modifier.value) : 0 ≤ modifier.dropped count ∧ modifier.dropped count < count := by
  obtain ⟨kind, value⟩ := modifier
  cases kind with
  | dropLowest | dropHighest => exact ⟨nonneg, suits⟩
  | keepHighest | keepLowest =>
      obtain ⟨atLeast, below⟩ : 1 ≤ value ∧ value < count := suits
      simp only [dropped]
      omega
  | rerollCount | rerollAbove | rerollBelow | cutoffMaximum | cutoffMinimum => cases own

theorem Suits.rerollCount (suits : modifier.Suits size count) (role : modifier.kind.role = .rerollCount) :
    modifier.value ≤ count := by
  obtain ⟨kind, value⟩ := modifier
  cases kind <;> first | exact suits | cases role

theorem Suits.minimum (suits : modifier.Suits size count) (role : modifier.kind.role = .minimum) :
    1 < modifier.value ∧ modifier.value ≤ size := by
  obtain ⟨kind, value⟩ := modifier
  cases kind <;> first | exact suits | cases role

theorem Suits.maximum (suits : modifier.Suits size count) (role : modifier.kind.role = .maximum) :
    1 ≤ modifier.value ∧ modifier.value < size := by
  obtain ⟨kind, value⟩ := modifier
  cases kind <;> first | exact suits | cases role

end Modifier

/-! ## Scans with two slots -/

section Slots

variable {Value : Type} {slot before whole : Option Value}

private theorem slot_of_append {noted rest : List Value} (filled : whole.toList = noted ++ rest) :
    ∃ part : Option Value, part.toList = noted := by
  match noted with
  | [] => exact ⟨none, rfl⟩
  | [value] => exact ⟨some value, rfl⟩
  | _ :: _ :: _ =>
      have length := congrArg List.length filled
      cases whole <;> simp at length

private theorem toList_eq_iff {noted : List Value} :
    slot.toList = noted ↔ noted.length ≤ 1 ∧ noted.head? = slot := by
  match noted with
  | [] => cases slot <;> simp
  | [_] => cases slot <;> simp [@eq_comm Value]
  | _ :: _ :: _ => cases slot <;> simp

private theorem fill_eq_iff {value : Value} :
    slot.toList = before.toList ++ [value] ↔ before = none ∧ some value = slot := by
  cases before <;> cases slot <;> simp [@eq_comm Value]

private theorem toList_eq_toList_iff : slot.toList = before.toList ↔ before = slot := by
  cases before <;> cases slot <;> simp [@eq_comm Value]

variable {Scan First Second : Type} {step : Scan → Modifier → Except Failure Scan} {first : Scan → Option First}
  {second : Scan → Option Second} {firstRole secondRole : ModifierKind.Role} {firstNote : Modifier → First}
  {secondNote : Modifier → Second} {Fits : Modifier → Prop}

/-- A scan with two slots that takes up the modifiers of one role in each of them, as long as the slot is free. -/
private theorem foldlM_eq_ok_iff_slots (slots : Function.Bijective fun scan => (first scan, second scan))
    (stepped : ∀ scan modifier after, step scan modifier = .ok after ↔ Fits modifier ∧
      (first after).toList = (first scan).toList ++ (Modifier.ofRole firstRole [modifier]).map firstNote ∧
      (second after).toList = (second scan).toList ++ (Modifier.ofRole secondRole [modifier]).map secondNote)
    (modifiers : List Modifier) (scan after : Scan) :
    modifiers.foldlM step scan = .ok after ↔ (∀ modifier ∈ modifiers, Fits modifier) ∧
      (first after).toList = (first scan).toList ++ (Modifier.ofRole firstRole modifiers).map firstNote ∧
      (second after).toList = (second scan).toList ++ (Modifier.ofRole secondRole modifiers).map secondNote := by
  induction modifiers generalizing scan with
  | nil =>
      simp only [List.foldlM_nil, pure_eq_ok_iff, Modifier.ofRole, List.filter_nil, List.map_nil, List.append_nil,
        toList_eq_toList_iff]
      rw [← Prod.mk.injEq, slots.injective.eq_iff, and_iff_right (List.forall_mem_nil _)]
  | cons modifier rest ih =>
      rw [List.foldlM_cons, bind_eq_ok_iff, List.forall_mem_cons, Modifier.ofRole_cons modifier rest,
        Modifier.ofRole_cons modifier rest, List.map_append, List.map_append, ← List.append_assoc,
        ← List.append_assoc]
      simp only [ih, stepped]
      constructor
      · intro given
        obtain ⟨middle, ⟨fits, firstFilled, secondFilled⟩, others, firstRest, secondRest⟩ := given
        exact ⟨⟨fits, others⟩, firstFilled ▸ firstRest, secondFilled ▸ secondRest⟩
      · intro given
        obtain ⟨⟨fits, others⟩, firstWhole, secondWhole⟩ := given
        -- What is noted in the end has room for one value, so what is noted now fills a slot as well.
        obtain ⟨firstNow, firstFilled⟩ := slot_of_append firstWhole
        obtain ⟨secondNow, secondFilled⟩ := slot_of_append secondWhole
        obtain ⟨middle, same⟩ := slots.surjective (firstNow, secondNow)
        obtain ⟨rfl, rfl⟩ := Prod.mk.injEq .. ▸ same
        exact ⟨middle, ⟨fits, firstFilled, secondFilled⟩, others, by rwa [firstFilled], by rwa [secondFilled]⟩

variable (first second) in
/-- From empty slots on, each slot holds what the only modifier of its role says. -/
private theorem foldlM_eq_ok_iff_once (slots : Function.Bijective fun scan => (first scan, second scan))
    (stepped : ∀ scan modifier after, step scan modifier = .ok after ↔ Fits modifier ∧
      (first after).toList = (first scan).toList ++ (Modifier.ofRole firstRole [modifier]).map firstNote ∧
      (second after).toList = (second scan).toList ++ (Modifier.ofRole secondRole [modifier]).map secondNote)
    {modifiers : List Modifier} {scan after : Scan} (firstFree : first scan = none) (secondFree : second scan = none) :
    modifiers.foldlM step scan = .ok after ↔ (∀ modifier ∈ modifiers, Fits modifier) ∧
      (Modifier.ofRole firstRole modifiers).length ≤ 1 ∧ (Modifier.ofRole secondRole modifiers).length ≤ 1 ∧
      (Modifier.ofRole firstRole modifiers).head?.map firstNote = first after ∧
      (Modifier.ofRole secondRole modifiers).head?.map secondNote = second after := by
  rw [foldlM_eq_ok_iff_slots slots stepped]
  simp only [firstFree, secondFree, Option.toList_none, List.nil_append, toList_eq_iff, List.length_map,
    List.head?_map, and_assoc, and_left_comm]

end Slots

namespace Die

variable {die made : Die} {modifiers : List Modifier}

/-! ## Steps of the scans by slot -/

theorem DropScan.add_eq_ok_iff_slots (die : Die) (scan : DropScan) (modifier : Modifier) (after : DropScan) :
    scan.add die modifier = .ok after ↔ (modifier.kind.family = .drop → modifier.Suits die.size die.count) ∧
      after.lowest.toList = scan.lowest.toList ++
        (Modifier.ofRole .lowestDropped [modifier]).map (Modifier.dropped die.count) ∧
      after.highest.toList = scan.highest.toList ++
        (Modifier.ofRole .highestDropped [modifier]).map (Modifier.dropped die.count) := by
  obtain ⟨lowest, highest⟩ := scan
  obtain ⟨lowestAfter, highestAfter⟩ := after
  obtain ⟨kind, value⟩ := modifier
  cases kind with
  | dropLowest | keepHighest | dropHighest | keepLowest =>
      have atLeast : 0 < value ↔ 1 ≤ value := Iff.rfl
      simp only [add, setLowest_eq_ok_iff, setHighest_eq_ok_iff, droppedByNumber_eq_ok_iff,
        droppedByKeeping_eq_ok_iff, Modifier.ofRole_singleton, ModifierKind.role, ModifierKind.family,
        Modifier.Suits, Modifier.dropped, reduceCtorEq, if_true, if_false, List.map_cons, List.map_nil,
        List.append_nil, fill_eq_iff, toList_eq_toList_iff, mk.injEq, atLeast, and_assoc, and_left_comm,
        exists_and_left, exists_eq_left', forall_const]
  | rerollCount | rerollAbove | rerollBelow | cutoffMaximum | cutoffMinimum =>
      simp [add, Modifier.ofRole, ModifierKind.role, ModifierKind.family, toList_eq_toList_iff]

end Die

/-- The condition that a modifier sets for rolling again. -/
def Modifier.condition (modifier : Modifier) : Die.RerollCondition :=
  if modifier.kind = .rerollAbove then .above modifier.value else .below modifier.value

namespace Die

variable {die made : Die} {modifiers : List Modifier}

theorem RerollScan.add_rerollCount_eq_ok_iff {scan after : RerollScan} {value : Int} :
    scan.add die ⟨.rerollCount, value⟩ = .ok after ↔
      scan.count = none ∧ value ≤ die.count ∧ { scan with count := some value } = after := by
  cases noted : scan.count <;>
    simp only [add, noted, reject_ne_ok, bind_eq_ok_iff, pure_eq_ok_iff, checkRerollCount_eq_ok_iff, exists_const,
      reduceCtorEq, false_and, true_and]

theorem RerollScan.add_eq_ok_iff_slots (die : Die) (scan : RerollScan) (modifier : Modifier) (after : RerollScan) :
    scan.add die modifier = .ok after ↔ (modifier.kind.family = .reroll → modifier.Suits die.size die.count) ∧
      after.count.toList = scan.count.toList ++ (Modifier.ofRole .rerollCount [modifier]).map Modifier.value ∧
      after.condition.toList = scan.condition.toList ++
        (Modifier.ofRole .rerollCondition [modifier]).map Modifier.condition := by
  obtain ⟨count, condition⟩ := scan
  obtain ⟨countAfter, conditionAfter⟩ := after
  obtain ⟨kind, value⟩ := modifier
  cases kind with
  | rerollCount =>
      simp [add_rerollCount_eq_ok_iff, Modifier.ofRole, ModifierKind.role, ModifierKind.family, Modifier.Suits,
        fill_eq_iff, toList_eq_toList_iff, and_assoc, and_left_comm]
  | rerollAbove | rerollBelow =>
      simp [add, Modifier.ofRole, ModifierKind.role, ModifierKind.family, Modifier.Suits, Modifier.condition,
        setCondition_eq_ok_iff, checkRerollAbove_eq_ok_iff, checkRerollBelow_eq_ok_iff, fill_eq_iff,
        toList_eq_toList_iff, and_assoc, and_left_comm]
  | dropLowest | keepHighest | dropHighest | keepLowest | cutoffMaximum | cutoffMinimum =>
      simp [add, Modifier.ofRole, ModifierKind.role, ModifierKind.family, toList_eq_toList_iff]

theorem CutoffScan.add_cutoffMinimum_eq_ok_iff {scan after : CutoffScan} {value : Int} :
    scan.add die ⟨.cutoffMinimum, value⟩ = .ok after ↔
      scan.minimum = none ∧ (1 < value ∧ value ≤ die.size) ∧ { scan with minimum := some value } = after := by
  cases noted : scan.minimum <;>
    simp only [add, noted, reject_ne_ok, bind_eq_ok_iff, pure_eq_ok_iff, checkMinimum_eq_ok_iff, exists_const,
      reduceCtorEq, false_and, true_and]

theorem CutoffScan.add_cutoffMaximum_eq_ok_iff {scan after : CutoffScan} {value : Int} :
    scan.add die ⟨.cutoffMaximum, value⟩ = .ok after ↔
      scan.maximum = none ∧ (1 ≤ value ∧ value < die.size) ∧ { scan with maximum := some value } = after := by
  cases noted : scan.maximum <;>
    simp only [add, noted, reject_ne_ok, bind_eq_ok_iff, pure_eq_ok_iff, checkMaximum_eq_ok_iff, exists_const,
      reduceCtorEq, false_and, true_and]

theorem CutoffScan.add_eq_ok_iff_slots (die : Die) (scan : CutoffScan) (modifier : Modifier) (after : CutoffScan) :
    scan.add die modifier = .ok after ↔ (modifier.kind.family = .cutoff → modifier.Suits die.size die.count) ∧
      after.minimum.toList = scan.minimum.toList ++ (Modifier.ofRole .minimum [modifier]).map Modifier.value ∧
      after.maximum.toList = scan.maximum.toList ++ (Modifier.ofRole .maximum [modifier]).map Modifier.value := by
  obtain ⟨minimum, maximum⟩ := scan
  obtain ⟨minimumAfter, maximumAfter⟩ := after
  obtain ⟨kind, value⟩ := modifier
  cases kind with
  | cutoffMinimum | cutoffMaximum =>
      simp [add_cutoffMinimum_eq_ok_iff, add_cutoffMaximum_eq_ok_iff, Modifier.ofRole, ModifierKind.role,
        ModifierKind.family, Modifier.Suits, fill_eq_iff, toList_eq_toList_iff, and_assoc, and_left_comm]
  | dropLowest | keepHighest | dropHighest | keepLowest | rerollCount | rerollAbove | rerollBelow =>
      simp [add, Modifier.ofRole, ModifierKind.role, ModifierKind.family, toList_eq_toList_iff]

/-! ## What the modifiers describe -/

/-- The drop that modifiers which go together ask for. -/
def describedDrop (die : Die) (modifiers : List Modifier) : Drop :=
  match (Modifier.ofRole .lowestDropped modifiers).head?, (Modifier.ofRole .highestDropped modifiers).head? with
  | some low, some high => .keeping (positionsFrom (low.dropped die.count) (die.count - high.dropped die.count))
  | some low, none => .lowest (low.dropped die.count)
  | none, some high => .highest (high.dropped die.count)
  | none, none => die.drop

/-- The reroll that modifiers which go together ask for. -/
def describedReroll (die : Die) (modifiers : List Modifier) : Reroll :=
  match (Modifier.ofRole .rerollCount modifiers).head?,
    (Modifier.ofRole .rerollCondition modifiers).head?.map Modifier.condition with
  | some rerolls, some (.above threshold) => .above rerolls.value threshold
  | some rerolls, some (.below threshold) => .below rerolls.value threshold
  | _, _ => die.reroll

/-- The cutoff that modifiers which go together ask for. -/
def describedCutoff (die : Die) (modifiers : List Modifier) : Cutoff :=
  match (Modifier.ofRole .minimum modifiers).head?, (Modifier.ofRole .maximum modifiers).head? with
  | some least, some greatest => .between least.value greatest.value
  | some least, none => .minimum least.value
  | none, some greatest => .maximum greatest.value
  | none, none => die.cutoff

/-- The group with the clauses that modifiers which go together ask for. -/
def described (die : Die) (modifiers : List Modifier) : Die :=
  { die with
    drop := die.describedDrop modifiers
    reroll := die.describedReroll modifiers
    cutoff := die.describedCutoff modifiers }

theorem DropScan.foldlM_add_eq_ok_iff_once {scan : DropScan} :
    modifiers.foldlM (DropScan.add die) {} = .ok scan ↔
      (∀ modifier ∈ modifiers, modifier.kind.family = .drop → modifier.Suits die.size die.count) ∧
        (Modifier.ofRole .lowestDropped modifiers).length ≤ 1 ∧
        (Modifier.ofRole .highestDropped modifiers).length ≤ 1 ∧
        ⟨(Modifier.ofRole .lowestDropped modifiers).head?.map (Modifier.dropped die.count),
          (Modifier.ofRole .highestDropped modifiers).head?.map (Modifier.dropped die.count)⟩ = scan := by
  obtain ⟨lowest, highest⟩ := scan
  rw [mk.injEq]
  refine foldlM_eq_ok_iff_once DropScan.lowest DropScan.highest
    ⟨?_, fun (lowest, highest) => ⟨⟨lowest, highest⟩, rfl⟩⟩ (add_eq_ok_iff_slots die) rfl rfl
  rintro ⟨_, _⟩ ⟨_, _⟩ ⟨⟩
  rfl

theorem addDrop_eq_ok_iff (whole : die.drop = .none) (few : die.count ≤ positionLimit)
    (nonneg : ∀ modifier ∈ modifiers, 0 ≤ modifier.value) :
    die.addDrop modifiers = .ok made ↔
      (∀ modifier ∈ modifiers, modifier.kind.family = .drop → modifier.Suits die.size die.count) ∧
        (Modifier.ofRole .lowestDropped modifiers).length ≤ 1 ∧
        (Modifier.ofRole .highestDropped modifiers).length ≤ 1 ∧
        (∀ low ∈ Modifier.ofRole .lowestDropped modifiers, ∀ high ∈ Modifier.ofRole .highestDropped modifiers,
          low.dropped die.count + high.dropped die.count < die.count) ∧
        { die with drop := die.describedDrop modifiers } = made := by
  simp only [addDrop, bind_eq_ok_iff, DropScan.foldlM_add_eq_ok_iff_once, and_assoc, exists_and_left, exists_eq_left']
  refine and_congr_right fun suits => and_congr_right fun oneLow => and_congr_right fun oneHigh => ?_
  have bounds : ∀ role, role.family = .drop → ∀ modifier ∈ Modifier.ofRole role modifiers,
      0 ≤ modifier.dropped die.count ∧ modifier.dropped die.count < die.count := by
    intro role own modifier member
    obtain ⟨fits, filled⟩ := Modifier.suits_of_mem_ofRole suits own member
    have inside := (Modifier.mem_ofRole.mp member).1
    exact fits.dropped_bounds (by rw [← ModifierKind.family_role, filled, own]) (nonneg modifier inside)
  have lowBounds := bounds .lowestDropped rfl
  have highBounds := bounds .highestDropped rfl
  unfold describedDrop
  obtain ⟨low, lowOnly⟩ := Modifier.exists_toList_of_once oneLow
  obtain ⟨high, highOnly⟩ := Modifier.exists_toList_of_once oneHigh
  rw [lowOnly] at lowBounds ⊢
  rw [highOnly] at highBounds ⊢
  cases low with
  | none =>
      cases high with
      | none => simp [pure_eq_ok_iff]
      | some high =>
          have below := (highBounds high (by simp)).2
          simp [dropHighest_eq_ok_iff, whole, below]
  | some low =>
      have lowFits := lowBounds low (by simp)
      cases high with
      | none => simp [dropLowest_eq_ok_iff, whole, lowFits.2]
      | some high =>
          have highFits := highBounds high (by simp)
          have short : ((die.count : Int) - high.dropped die.count - low.dropped die.count).toNat ≤ positionLimit := by
            omega
          simp [dropEnds_eq_ok_iff, keepMiddle_eq_ok_iff, whole, short]

/-! ## Rerolls -/

theorem RerollScan.foldlM_add_eq_ok_iff_once {scan : RerollScan} :
    modifiers.foldlM (RerollScan.add die) {} = .ok scan ↔
      (∀ modifier ∈ modifiers, modifier.kind.family = .reroll → modifier.Suits die.size die.count) ∧
        (Modifier.ofRole .rerollCount modifiers).length ≤ 1 ∧
        (Modifier.ofRole .rerollCondition modifiers).length ≤ 1 ∧
        ⟨(Modifier.ofRole .rerollCount modifiers).head?.map Modifier.value,
          (Modifier.ofRole .rerollCondition modifiers).head?.map Modifier.condition⟩ = scan := by
  obtain ⟨count, condition⟩ := scan
  rw [mk.injEq]
  refine foldlM_eq_ok_iff_once RerollScan.count RerollScan.condition
    ⟨?_, fun (count, condition) => ⟨⟨count, condition⟩, rfl⟩⟩ (add_eq_ok_iff_slots die) rfl rfl
  rintro ⟨_, _⟩ ⟨_, _⟩ ⟨⟩
  rfl

theorem addReroll_eq_ok_iff :
    die.addReroll modifiers = .ok made ↔
      (∀ modifier ∈ modifiers, modifier.kind.family = .reroll → modifier.Suits die.size die.count) ∧
        (Modifier.ofRole .rerollCount modifiers).length ≤ 1 ∧
        (Modifier.ofRole .rerollCondition modifiers).length ≤ 1 ∧
        (Modifier.ofRole .rerollCount modifiers = [] ↔ Modifier.ofRole .rerollCondition modifiers = []) ∧
        { die with reroll := die.describedReroll modifiers } = made := by
  simp only [addReroll, bind_eq_ok_iff, RerollScan.foldlM_add_eq_ok_iff_once, and_assoc, exists_and_left,
    exists_eq_left']
  refine and_congr_right fun suits => and_congr_right fun oneCount => and_congr_right fun oneCondition => ?_
  have countFits : ∀ modifier ∈ Modifier.ofRole .rerollCount modifiers, modifier.value ≤ die.count := by
    intro modifier member
    obtain ⟨fits, role⟩ := Modifier.suits_of_mem_ofRole suits rfl member
    exact fits.rerollCount role
  have conditionFits : ∀ modifier ∈ Modifier.ofRole .rerollCondition modifiers,
      modifier.Suits die.size die.count ∧ modifier.kind.role = .rerollCondition :=
    fun _ => Modifier.suits_of_mem_ofRole suits rfl
  unfold describedReroll
  obtain ⟨rerolls, rerollsOnly⟩ := Modifier.exists_toList_of_once oneCount
  obtain ⟨condition, conditionOnly⟩ := Modifier.exists_toList_of_once oneCondition
  rw [rerollsOnly] at countFits ⊢
  rw [conditionOnly] at conditionFits ⊢
  cases rerolls with
  | none =>
      cases condition with
      | none => simp [pure_eq_ok_iff]
      | some condition => simp [reject_ne_ok]
  | some rerolls =>
      have most := countFits rerolls (by simp)
      cases condition with
      | none => simp [reject_ne_ok]
      | some condition =>
          obtain ⟨fits, role⟩ := conditionFits condition (by simp)
          obtain ⟨kind, threshold⟩ := condition
          cases kind <;> try cases role
          · have bounds : 1 ≤ threshold ∧ threshold < die.size := fits
            simp [Modifier.condition, rerollAbove_eq_ok_iff, bounds, most]
          · have bounds : 1 < threshold ∧ threshold ≤ die.size := fits
            simp [Modifier.condition, rerollBelow_eq_ok_iff, bounds, most]

/-! ## Cutoffs -/

theorem CutoffScan.foldlM_add_eq_ok_iff_once {scan : CutoffScan} :
    modifiers.foldlM (CutoffScan.add die) {} = .ok scan ↔
      (∀ modifier ∈ modifiers, modifier.kind.family = .cutoff → modifier.Suits die.size die.count) ∧
        (Modifier.ofRole .minimum modifiers).length ≤ 1 ∧
        (Modifier.ofRole .maximum modifiers).length ≤ 1 ∧
        ⟨(Modifier.ofRole .minimum modifiers).head?.map Modifier.value,
          (Modifier.ofRole .maximum modifiers).head?.map Modifier.value⟩ = scan := by
  obtain ⟨minimum, maximum⟩ := scan
  rw [mk.injEq]
  refine foldlM_eq_ok_iff_once CutoffScan.minimum CutoffScan.maximum
    ⟨?_, fun (minimum, maximum) => ⟨⟨minimum, maximum⟩, rfl⟩⟩ (add_eq_ok_iff_slots die) rfl rfl
  rintro ⟨_, _⟩ ⟨_, _⟩ ⟨⟩
  rfl

theorem addCutoff_eq_ok_iff :
    die.addCutoff modifiers = .ok made ↔
      (∀ modifier ∈ modifiers, modifier.kind.family = .cutoff → modifier.Suits die.size die.count) ∧
        (Modifier.ofRole .minimum modifiers).length ≤ 1 ∧
        (Modifier.ofRole .maximum modifiers).length ≤ 1 ∧
        (∀ least ∈ Modifier.ofRole .minimum modifiers, ∀ greatest ∈ Modifier.ofRole .maximum modifiers,
          least.value ≤ greatest.value) ∧
        { die with cutoff := die.describedCutoff modifiers } = made := by
  simp only [addCutoff, bind_eq_ok_iff, CutoffScan.foldlM_add_eq_ok_iff_once, and_assoc, exists_and_left,
    exists_eq_left']
  refine and_congr_right fun suits => and_congr_right fun oneLeast => and_congr_right fun oneGreatest => ?_
  have leastFits : ∀ modifier ∈ Modifier.ofRole .minimum modifiers,
      1 < modifier.value ∧ modifier.value ≤ die.size := by
    intro modifier member
    obtain ⟨fits, role⟩ := Modifier.suits_of_mem_ofRole suits rfl member
    exact fits.minimum role
  have greatestFits : ∀ modifier ∈ Modifier.ofRole .maximum modifiers,
      1 ≤ modifier.value ∧ modifier.value < die.size := by
    intro modifier member
    obtain ⟨fits, role⟩ := Modifier.suits_of_mem_ofRole suits rfl member
    exact fits.maximum role
  unfold describedCutoff
  obtain ⟨least, leastOnly⟩ := Modifier.exists_toList_of_once oneLeast
  obtain ⟨greatest, greatestOnly⟩ := Modifier.exists_toList_of_once oneGreatest
  rw [leastOnly] at leastFits ⊢
  rw [greatestOnly] at greatestFits ⊢
  cases least with
  | none =>
      cases greatest with
      | none => simp [pure_eq_ok_iff]
      | some greatest => simp [lowerTo_eq_ok_iff, greatestFits greatest (by simp)]
  | some least =>
      have bounds := leastFits least (by simp)
      cases greatest with
      | none => simp [raiseTo_eq_ok_iff, bounds]
      | some greatest => simp [clampBetween_eq_ok_iff, bounds, greatestFits greatest (by simp)]

/-! ## All clauses -/

theorem described_eq_of_perm {permuted : List Modifier} (reordered : modifiers.Perm permuted)
    (once : ∀ role, (Modifier.ofRole role modifiers).length ≤ 1) :
    die.described permuted = die.described modifiers := by
  have same (role : ModifierKind.Role) := Modifier.ofRole_eq_of_perm reordered (once role)
  simp only [described, describedDrop, describedReroll, describedCutoff, same]

theorem addClauses_eq_ok_iff (whole : die.drop = .none) (few : die.count ≤ positionLimit)
    (nonneg : ∀ modifier ∈ modifiers, 0 ≤ modifier.value) :
    die.addClauses modifiers = .ok made ↔
      Modifier.Agree die.size die.count modifiers ∧ die.described modifiers = made := by
  simp only [addClauses, bind_eq_ok_iff, addDrop_eq_ok_iff whole few nonneg, addReroll_eq_ok_iff,
    addCutoff_eq_ok_iff]
  constructor
  · intro given
    obtain ⟨_, ⟨dropSuits, oneLow, oneHigh, ends, rfl⟩, _, ⟨rerollSuits, oneCount, oneCondition, paired, rfl⟩,
      cutoffSuits, oneLeast, oneGreatest, ordered, rfl⟩ := given
    refine ⟨⟨?once, ?suits, ends, paired, ordered⟩, rfl⟩
    case once =>
      intro role
      cases role <;> assumption
    case suits =>
      intro modifier member
      cases family : modifier.kind.family with
      | drop => exact dropSuits modifier member family
      | reroll => exact rerollSuits modifier member family
      | cutoff => exact cutoffSuits modifier member family
  · intro given
    obtain ⟨⟨once, suits, ends, paired, ordered⟩, rfl⟩ := given
    have own {family : ModifierKind.Family} :
        ∀ modifier ∈ modifiers, modifier.kind.family = family → modifier.Suits die.size die.count :=
      fun modifier member _ => suits modifier member
    exact ⟨_, ⟨own, once _, once _, ends, rfl⟩, _, ⟨own, once _, once _, paired, rfl⟩,
      own, once _, once _, ordered, rfl⟩

/-- Modifiers of a group without a drop are accepted exactly when they go together, the group that they make is then
the one that they describe role by role, and their order decides neither. -/
theorem addClauses_of_agreement (whole : die.drop = .none) (few : die.count ≤ positionLimit)
    (nonneg : ∀ modifier ∈ modifiers, 0 ≤ modifier.value) :
    (∀ made, die.addClauses modifiers = .ok made ↔
      Modifier.Agree die.size die.count modifiers ∧ die.described modifiers = made) ∧
    ∀ permuted, modifiers.Perm permuted → ∀ made,
      die.addClauses permuted = .ok made ↔ die.addClauses modifiers = .ok made := by
  refine ⟨fun made => addClauses_eq_ok_iff whole few nonneg, ?_⟩
  intro permuted reordered made
  have permutedNonneg : ∀ modifier ∈ permuted, 0 ≤ modifier.value :=
    fun modifier member => nonneg modifier (reordered.mem_iff.mpr member)
  rw [addClauses_eq_ok_iff whole few nonneg, addClauses_eq_ok_iff whole few permutedNonneg]
  constructor
  · intro given
    obtain ⟨agree, rfl⟩ := given
    exact ⟨agree.perm reordered.symm, described_eq_of_perm reordered.symm agree.once⟩
  · intro given
    obtain ⟨agree, rfl⟩ := given
    exact ⟨agree.perm reordered, described_eq_of_perm reordered agree.once⟩

/-- `5d6 kh3 dh1 rr2 ab4 mx5 mn2` and the same modifiers backwards. -/
theorem addClauses_of_agreement_each_role :
    let modifiers : List Modifier :=
      [⟨.keepHighest, 3⟩, ⟨.dropHighest, 1⟩, ⟨.rerollCount, 2⟩, ⟨.rerollAbove, 4⟩, ⟨.cutoffMaximum, 5⟩,
        ⟨.cutoffMinimum, 2⟩]
    Modifier.Agree 6 5 modifiers ∧
      (plain 6 5).addClauses modifiers.reverse =
        .ok { plain 6 5 with drop := .keeping [2, 3], reroll := .above 2 4, cutoff := .between 2 5 } := by
  intro modifiers
  obtain ⟨accepted, reordered⟩ :=
    @addClauses_of_agreement (plain 6 5) modifiers rfl (by decide) (by decide)
  have made : (plain 6 5).addClauses modifiers =
      .ok { plain 6 5 with drop := .keeping [2, 3], reroll := .above 2 4, cutoff := .between 2 5 } := by
    rfl
  exact ⟨((accepted _).mp made).1, (reordered _ (List.reverse_perm modifiers).symm _).mpr made⟩

end Die
end DiceNotation
