import DiceNotation.Bag.Expression
import DiceNotation.Die.Modified
import DiceNotation.Proofs.Die.Building

/-!
# Laws of modifying

Each scan takes the modifiers of its own family and passes over the others. Modifiers with numbers that are not
negative lead to well-formed groups, and the modifiers that write the clauses of a well-formed group lead back to
that group.
-/

set_option autoImplicit false

namespace DiceNotation

/-! ## Families of modifiers -/

/-- The family of clauses to which a modifier belongs. -/
inductive ModifierKind.Family where
  | drop
  | reroll
  | cutoff
  deriving DecidableEq

def ModifierKind.family : ModifierKind → Family
  | dropLowest | keepHighest | dropHighest | keepLowest => .drop
  | rerollCount | rerollAbove | rerollBelow => .reroll
  | cutoffMaximum | cutoffMinimum => .cutoff

/-- The modifiers of one family, in order. -/
def Modifier.ofFamily (family : ModifierKind.Family) (modifiers : List Modifier) : List Modifier :=
  modifiers.filter fun modifier => decide (modifier.kind.family = family)

private theorem foldlM_ofFamily {Scan : Type} {step : Scan → Modifier → Except Failure Scan}
    {family : ModifierKind.Family}
    (idle : ∀ scan modifier, modifier.kind.family ≠ family → step scan modifier = .ok scan)
    (modifiers : List Modifier) (scan : Scan) :
    (Modifier.ofFamily family modifiers).foldlM step scan = modifiers.foldlM step scan := by
  rw [Modifier.ofFamily, List.foldlM_filter]
  congr 1
  funext before modifier
  by_cases own : modifier.kind.family = family
  · rw [if_pos (decide_eq_true own)]
  · rw [if_neg (by simpa using own), idle before modifier own]
    rfl

namespace Die

theorem DropScan.add_of_family_ne {die : Die} (scan : DropScan) (modifier : Modifier)
    (other : modifier.kind.family ≠ .drop) : scan.add die modifier = .ok scan := by
  obtain ⟨kind, value⟩ := modifier
  cases kind <;> first | rfl | exact absurd rfl other

theorem DropScan.foldlM_add_ofFamily (die : Die) (modifiers : List Modifier) (scan : DropScan) :
    (Modifier.ofFamily .drop modifiers).foldlM (DropScan.add die) scan =
      modifiers.foldlM (DropScan.add die) scan :=
  foldlM_ofFamily DropScan.add_of_family_ne modifiers scan

theorem addDrop_ofFamily (die : Die) (modifiers : List Modifier) :
    die.addDrop (Modifier.ofFamily .drop modifiers) = die.addDrop modifiers := by
  unfold addDrop
  rw [DropScan.foldlM_add_ofFamily]

theorem addReroll_ofFamily (die : Die) (modifiers : List Modifier) :
    die.addReroll (Modifier.ofFamily .reroll modifiers) = die.addReroll modifiers := by
  unfold addReroll
  rw [foldlM_ofFamily]
  rintro scan ⟨kind, value⟩ other
  cases kind <;> first | rfl | exact absurd rfl other

theorem addCutoff_ofFamily (die : Die) (modifiers : List Modifier) :
    die.addCutoff (Modifier.ofFamily .cutoff modifiers) = die.addCutoff modifiers := by
  unfold addCutoff
  rw [foldlM_ofFamily]
  rintro scan ⟨kind, value⟩ other
  cases kind <;> first | rfl | exact absurd rfl other

/-! ## Steps of the scans -/

variable {die made : Die}

theorem droppedByNumber_eq_ok_iff {number dropped : Int} :
    die.droppedByNumber number = .ok dropped ↔ number < die.count ∧ number = dropped := by
  simp only [droppedByNumber, bind_eq_ok_iff, pure_eq_ok_iff, checkDrop_eq_ok_iff, exists_const]

theorem droppedByKeeping_eq_ok_iff {kept dropped : Int} :
    die.droppedByKeeping kept = .ok dropped ↔
      (0 < kept ∧ kept < die.count) ∧ die.count - kept = dropped := by
  unfold droppedByKeeping
  split
  · simp only [reject_ne_ok, false_iff]
    omega
  · simp only [bind_eq_ok_iff, pure_eq_ok_iff, checkDrop_eq_ok_iff, exists_const]
    omega

namespace DropScan

variable {scan after : DropScan} {dropped : Except Failure Int}

theorem setLowest_eq_ok_iff :
    scan.setLowest dropped = .ok after ↔
      scan.lowest = none ∧ ∃ number, dropped = .ok number ∧
        { scan with lowest := some number } = after := by
  unfold setLowest
  cases scan.lowest with
  | none => simp only [bind_eq_ok_iff, pure_eq_ok_iff, true_and]
  | some number => simp only [reject_ne_ok, reduceCtorEq, false_and]

theorem setHighest_eq_ok_iff :
    scan.setHighest dropped = .ok after ↔
      scan.highest = none ∧ ∃ number, dropped = .ok number ∧
        { scan with highest := some number } = after := by
  unfold setHighest
  cases scan.highest with
  | none => simp only [bind_eq_ok_iff, pure_eq_ok_iff, true_and]
  | some number => simp only [reject_ne_ok, reduceCtorEq, false_and]

/-- What was noted so far drops no negative number of rolls. -/
structure Nonneg (scan : DropScan) : Prop where
  lowest : ∀ number ∈ scan.lowest, 0 ≤ number
  highest : ∀ number ∈ scan.highest, 0 ≤ number

private theorem Nonneg.setLowest (noted : scan.Nonneg)
    (nonneg : ∀ number, dropped = .ok number → 0 ≤ number)
    (stepped : scan.setLowest dropped = .ok after) : after.Nonneg := by
  obtain ⟨_, number, made, rfl⟩ := setLowest_eq_ok_iff.mp stepped
  refine ⟨?_, noted.highest⟩
  intro other member
  cases Option.mem_some.mp member
  exact nonneg number made

private theorem Nonneg.setHighest (noted : scan.Nonneg)
    (nonneg : ∀ number, dropped = .ok number → 0 ≤ number)
    (stepped : scan.setHighest dropped = .ok after) : after.Nonneg := by
  obtain ⟨_, number, made, rfl⟩ := setHighest_eq_ok_iff.mp stepped
  refine ⟨noted.lowest, ?_⟩
  intro other member
  cases Option.mem_some.mp member
  exact nonneg number made

theorem Nonneg.add {modifier : Modifier} (noted : scan.Nonneg) (nonneg : 0 ≤ modifier.value)
    (stepped : scan.add die modifier = .ok after) : after.Nonneg := by
  have number : ∀ number, die.droppedByNumber modifier.value = .ok number → 0 ≤ number := by
    intro number made
    obtain ⟨_, rfl⟩ := droppedByNumber_eq_ok_iff.mp made
    exact nonneg
  have keeping : ∀ number, die.droppedByKeeping modifier.value = .ok number → 0 ≤ number := by
    intro number made
    obtain ⟨⟨_, below⟩, rfl⟩ := droppedByKeeping_eq_ok_iff.mp made
    omega
  unfold DropScan.add at stepped
  split at stepped
  · exact noted.setLowest number stepped
  · exact noted.setLowest keeping stepped
  · exact noted.setHighest number stepped
  · exact noted.setHighest keeping stepped
  · cases stepped
    exact noted

end DropScan

namespace RerollScan

variable {scan after : RerollScan}

theorem setCondition_eq_ok_iff {check : Except Failure Unit} {condition : RerollCondition} :
    scan.setCondition check condition = .ok after ↔
      scan.condition = none ∧ check = .ok () ∧
        { scan with condition := some condition } = after := by
  unfold setCondition
  cases scan.condition with
  | none =>
      simp only [bind_eq_ok_iff, pure_eq_ok_iff, true_and]
      exact ⟨fun ⟨(), fits⟩ => fits, fun fits => ⟨(), fits⟩⟩
  | some number => simp only [reject_ne_ok, reduceCtorEq, false_and]

/-- What was noted so far rolls no negative number of dice again. -/
def Nonneg (scan : RerollScan) : Prop :=
  ∀ count ∈ scan.count, 0 ≤ count

theorem Nonneg.add {modifier : Modifier} (noted : scan.Nonneg) (nonneg : 0 ≤ modifier.value)
    (stepped : scan.add die modifier = .ok after) : after.Nonneg := by
  unfold RerollScan.add at stepped
  split at stepped
  · split at stepped
    · exact absurd stepped reject_ne_ok
    · simp only [bind_eq_ok_iff, pure_eq_ok_iff] at stepped
      obtain ⟨_, _, rfl⟩ := stepped
      intro count member
      cases Option.mem_some.mp member
      exact nonneg
  · obtain ⟨_, _, rfl⟩ := setCondition_eq_ok_iff.mp stepped
    exact noted
  · obtain ⟨_, _, rfl⟩ := setCondition_eq_ok_iff.mp stepped
    exact noted
  · cases stepped
    exact noted

end RerollScan

/-! ## What modifying leaves alone -/

theorem exists_drop_of_addDrop {modifiers : List Modifier}
    (built : die.addDrop modifiers = .ok made) : ∃ drop, { die with drop } = made := by
  have kept : ∀ {lowest highest : Int}, die.keepMiddle lowest highest = .ok made →
      ∃ drop, { die with drop } = made := by
    intro lowest highest kept
    obtain ⟨_, _, rfl⟩ := keepMiddle_eq_ok_iff.mp kept
    exact ⟨_, rfl⟩
  simp only [addDrop, bind_eq_ok_iff] at built
  obtain ⟨scan, _, built⟩ := built
  split at built
  · exact kept (dropEnds_eq_ok_iff.mp built).2
  · obtain ⟨_, ⟨_, rfl⟩ | ⟨_, _, middle⟩⟩ := dropLowest_eq_ok_iff.mp built
    · exact ⟨_, rfl⟩
    · exact kept middle
  · obtain ⟨_, ⟨_, rfl⟩ | ⟨_, _, middle⟩⟩ := dropHighest_eq_ok_iff.mp built
    · exact ⟨_, rfl⟩
    · exact kept middle
  · cases built
    exact ⟨die.drop, rfl⟩

theorem exists_reroll_of_addReroll {modifiers : List Modifier}
    (built : die.addReroll modifiers = .ok made) : ∃ reroll, { die with reroll } = made := by
  simp only [addReroll, bind_eq_ok_iff] at built
  obtain ⟨scan, _, built⟩ := built
  split at built
  · obtain ⟨_, _, rfl⟩ := rerollAbove_eq_ok_iff.mp built
    exact ⟨_, rfl⟩
  · obtain ⟨_, _, rfl⟩ := rerollBelow_eq_ok_iff.mp built
    exact ⟨_, rfl⟩
  · cases built
    exact ⟨die.reroll, rfl⟩
  · exact absurd built reject_ne_ok

theorem exists_cutoff_of_addCutoff {modifiers : List Modifier}
    (built : die.addCutoff modifiers = .ok made) : ∃ cutoff, { die with cutoff } = made := by
  simp only [addCutoff, bind_eq_ok_iff] at built
  obtain ⟨scan, _, built⟩ := built
  split at built
  · obtain ⟨_, _, _, rfl⟩ := clampBetween_eq_ok_iff.mp built
    exact ⟨_, rfl⟩
  · obtain ⟨_, rfl⟩ := raiseTo_eq_ok_iff.mp built
    exact ⟨_, rfl⟩
  · obtain ⟨_, rfl⟩ := lowerTo_eq_ok_iff.mp built
    exact ⟨_, rfl⟩
  · cases built
    exact ⟨die.cutoff, rfl⟩

/-- Modifiers touch the clauses of a group and nothing else. -/
theorem exists_clauses_of_addClauses {modifiers : List Modifier}
    (built : die.addClauses modifiers = .ok made) :
    ∃ drop reroll cutoff, { die with drop, reroll, cutoff } = made := by
  simp only [addClauses, bind_eq_ok_iff] at built
  obtain ⟨dropped, dropBuilt, rerolled, rerollBuilt, built⟩ := built
  obtain ⟨drop, rfl⟩ := exists_drop_of_addDrop dropBuilt
  obtain ⟨reroll, rfl⟩ := exists_reroll_of_addReroll rerollBuilt
  obtain ⟨cutoff, rfl⟩ := exists_cutoff_of_addCutoff built
  exact ⟨drop, reroll, cutoff, rfl⟩

/-! ## Modified groups are well formed -/

namespace WellFormed

theorem addDrop {modifiers : List Modifier} (formed : die.WellFormed)
    (nonneg : ∀ modifier ∈ modifiers, 0 ≤ modifier.value)
    (built : die.addDrop modifiers = .ok made) : made.WellFormed := by
  simp only [Die.addDrop, bind_eq_ok_iff] at built
  obtain ⟨scan, scanned, built⟩ := built
  have noted : scan.Nonneg := foldlM_preserves DropScan.Nonneg ⟨by simp, by simp⟩
    (fun before modifier after member held stepped => held.add (nonneg modifier member) stepped)
    scanned
  split at built
  · next lowest highest lowestNoted highestNoted =>
      exact formed.dropEnds (noted.lowest lowest lowestNoted)
        (noted.highest highest highestNoted) built
  · next lowest lowestNoted _ =>
      exact formed.dropLowest (noted.lowest lowest lowestNoted) built
  · next highest _ highestNoted =>
      exact formed.dropHighest (noted.highest highest highestNoted) built
  · cases built
    exact formed

theorem addReroll {modifiers : List Modifier} (formed : die.WellFormed)
    (nonneg : ∀ modifier ∈ modifiers, 0 ≤ modifier.value)
    (built : die.addReroll modifiers = .ok made) : made.WellFormed := by
  simp only [Die.addReroll, bind_eq_ok_iff] at built
  obtain ⟨scan, scanned, built⟩ := built
  have noted : scan.Nonneg := foldlM_preserves RerollScan.Nonneg (by simp [RerollScan.Nonneg])
    (fun before modifier after member held stepped => held.add (nonneg modifier member) stepped)
    scanned
  split at built
  · next count threshold countNoted _ => exact formed.rerollAbove (noted count countNoted) built
  · next count threshold countNoted _ => exact formed.rerollBelow (noted count countNoted) built
  · cases built
    exact formed
  · exact absurd built reject_ne_ok

theorem addCutoff {modifiers : List Modifier} (formed : die.WellFormed)
    (built : die.addCutoff modifiers = .ok made) : made.WellFormed := by
  simp only [Die.addCutoff, bind_eq_ok_iff] at built
  obtain ⟨scan, _, built⟩ := built
  split at built
  · exact formed.clampBetween built
  · exact formed.raiseTo built
  · exact formed.lowerTo built
  · cases built
    exact formed

theorem addClauses {modifiers : List Modifier} (formed : die.WellFormed)
    (nonneg : ∀ modifier ∈ modifiers, 0 ≤ modifier.value)
    (built : die.addClauses modifiers = .ok made) : made.WellFormed := by
  simp only [Die.addClauses, bind_eq_ok_iff] at built
  obtain ⟨dropped, dropBuilt, rerolled, rerollBuilt, built⟩ := built
  exact ((formed.addDrop nonneg dropBuilt).addReroll nonneg rerollBuilt).addCutoff built

end WellFormed

end Die

/-! ## The modifiers of a group -/

theorem Drop.family_of_mem_modifiers {drop : Drop} {count : Int} {modifier : Modifier}
    (member : modifier ∈ drop.modifiers count) : modifier.kind.family = .drop := by
  cases drop with
  | none => cases member
  | lowest number =>
      obtain rfl := List.mem_singleton.mp member
      rfl
  | highest number =>
      obtain rfl := List.mem_singleton.mp member
      rfl
  | keeping positions =>
      cases positions with
      | nil => cases member
      | cons first rest =>
          rcases List.mem_pair.mp member with rfl | rfl <;> rfl

theorem Reroll.family_of_mem_modifiers {reroll : Reroll} {modifier : Modifier}
    (member : modifier ∈ reroll.modifiers) : modifier.kind.family = .reroll := by
  cases reroll with
  | never count => cases member
  | above count threshold => rcases List.mem_pair.mp member with rfl | rfl <;> rfl
  | below count threshold => rcases List.mem_pair.mp member with rfl | rfl <;> rfl

theorem Cutoff.family_of_mem_modifiers {cutoff : Cutoff} {modifier : Modifier}
    (member : modifier ∈ cutoff.modifiers) : modifier.kind.family = .cutoff := by
  cases cutoff with
  | none => cases member
  | minimum least =>
      obtain rfl := List.mem_singleton.mp member
      rfl
  | maximum greatest =>
      obtain rfl := List.mem_singleton.mp member
      rfl
  | between least greatest => rcases List.mem_pair.mp member with rfl | rfl <;> rfl

namespace Modifier

variable {family other : ModifierKind.Family} {modifiers : List Modifier}

theorem ofFamily_append (first second : List Modifier) :
    ofFamily family (first ++ second) = ofFamily family first ++ ofFamily family second :=
  List.filter_append ..

theorem ofFamily_eq_self (own : ∀ modifier ∈ modifiers, modifier.kind.family = family) :
    ofFamily family modifiers = modifiers :=
  List.filter_eq_self.mpr fun modifier member => decide_eq_true (own modifier member)

theorem ofFamily_eq_nil (foreign : ∀ modifier ∈ modifiers, modifier.kind.family = other)
    (different : other ≠ family) : ofFamily family modifiers = [] :=
  List.filter_eq_nil_iff.mpr fun modifier member => by simp [foreign modifier member, different]

end Modifier

namespace Die

theorem ofFamily_drop_modifiers (die : Die) :
    Modifier.ofFamily .drop die.modifiers = die.drop.modifiers die.count := by
  rw [modifiers, Modifier.ofFamily_append, Modifier.ofFamily_append,
    Modifier.ofFamily_eq_self fun _ => Drop.family_of_mem_modifiers,
    Modifier.ofFamily_eq_nil (fun _ => Reroll.family_of_mem_modifiers) (by decide),
    Modifier.ofFamily_eq_nil (fun _ => Cutoff.family_of_mem_modifiers) (by decide),
    List.append_nil, List.append_nil]

theorem ofFamily_reroll_modifiers (die : Die) :
    Modifier.ofFamily .reroll die.modifiers = die.reroll.modifiers := by
  rw [modifiers, Modifier.ofFamily_append, Modifier.ofFamily_append,
    Modifier.ofFamily_eq_nil (fun _ => Drop.family_of_mem_modifiers) (by decide),
    Modifier.ofFamily_eq_self fun _ => Reroll.family_of_mem_modifiers,
    Modifier.ofFamily_eq_nil (fun _ => Cutoff.family_of_mem_modifiers) (by decide),
    List.nil_append, List.append_nil]

theorem ofFamily_cutoff_modifiers (die : Die) :
    Modifier.ofFamily .cutoff die.modifiers = die.cutoff.modifiers := by
  rw [modifiers, Modifier.ofFamily_append, Modifier.ofFamily_append,
    Modifier.ofFamily_eq_nil (fun _ => Drop.family_of_mem_modifiers) (by decide),
    Modifier.ofFamily_eq_nil (fun _ => Reroll.family_of_mem_modifiers) (by decide),
    Modifier.ofFamily_eq_self fun _ => Cutoff.family_of_mem_modifiers, List.nil_append,
    List.nil_append]

/-! ## Clauses come back from their modifiers -/

private theorem head_positionsFrom {first bound : Int} (below : first < bound) :
    ∃ rest, positionsFrom first bound = first :: rest := by
  obtain ⟨number, size⟩ : ∃ number, (bound - first).toNat = number + 1 :=
    ⟨(bound - first).toNat - 1, by omega⟩
  rw [positionsFrom, size, List.range_succ_eq_map, List.map_cons, Int.natCast_zero, Int.add_zero]
  exact ⟨_, rfl⟩

private theorem getLast_positionsFrom {first bound : Int} (below : first < bound)
    (nonempty : positionsFrom first bound ≠ []) :
    (positionsFrom first bound).getLast nonempty = bound - 1 := by
  obtain ⟨number, size⟩ : ∃ number, (bound - first).toNat = number + 1 :=
    ⟨(bound - first).toNat - 1, by omega⟩
  simp only [positionsFrom, size, List.range_succ, List.map_append, List.map_cons, List.map_nil,
    List.getLast_append_singleton]
  omega

/-- A drop that keeps the middle is written by the numbers of rolls that go on each side. -/
theorem modifiers_keeping_positionsFrom {count : Int} {lowest highest : Nat}
    (below : (lowest : Int) + highest < count) :
    (Drop.keeping (positionsFrom lowest (count - highest))).modifiers count =
      [⟨.dropLowest, lowest⟩, ⟨.dropHighest, highest⟩] := by
  have inside : (lowest : Int) < count - highest := by omega
  obtain ⟨rest, shape⟩ := head_positionsFrom inside
  have last := getLast_positionsFrom inside (by simp [shape])
  simp only [shape] at last
  rw [shape, Drop.modifiers, last]
  congr 3
  omega

variable {die : Die}

theorem addDrop_modifiers {drop : Drop} (bare : die.drop = .none) (fits : drop.Fits die.count)
    (few : ∀ positions, drop = .keeping positions → positions.length ≤ positionLimit) :
    die.addDrop (drop.modifiers die.count) = .ok { die with drop } := by
  cases drop with
  | none =>
      obtain ⟨size, count, drop, reroll, cutoff, sign, explosive⟩ := die
      obtain rfl := bare
      rfl
  | lowest number =>
      have dropped := droppedByNumber_eq_ok_iff.mpr ⟨fits.2, rfl⟩
      have built := dropLowest_eq_ok_iff.mpr ⟨fits.2, .inl ⟨bare, rfl⟩⟩
      simpa only [addDrop, Drop.modifiers, List.foldlM_cons, List.foldlM_nil, DropScan.add,
        DropScan.setLowest, dropped, ok_bind, pure_eq_ok] using built
  | highest number =>
      have dropped := droppedByNumber_eq_ok_iff.mpr ⟨fits.2, rfl⟩
      have built := dropHighest_eq_ok_iff.mpr ⟨fits.2, .inl ⟨bare, rfl⟩⟩
      simpa only [addDrop, Drop.modifiers, List.foldlM_cons, List.foldlM_nil, DropScan.add,
        DropScan.setHighest, dropped, ok_bind, pure_eq_ok] using built
  | keeping positions =>
      obtain ⟨lowest, highest, below, rfl⟩ := fits
      have short := few _ rfl
      rw [length_positionsFrom] at short
      have lowestDropped : die.droppedByNumber lowest = .ok (lowest : Int) :=
        droppedByNumber_eq_ok_iff.mpr ⟨by omega, rfl⟩
      have highestDropped : die.droppedByNumber highest = .ok (highest : Int) :=
        droppedByNumber_eq_ok_iff.mpr ⟨by omega, rfl⟩
      have middle : die.keepMiddle lowest highest = .ok _ :=
        keepMiddle_eq_ok_iff.mpr ⟨by omega, short, rfl⟩
      have built := dropEnds_eq_ok_iff.mpr ⟨bare, middle⟩
      rw [modifiers_keeping_positionsFrom (by omega)]
      simpa only [addDrop, List.foldlM_cons, List.foldlM_nil, DropScan.add, DropScan.setLowest,
        DropScan.setHighest, lowestDropped, highestDropped, ok_bind, pure_eq_ok] using built

theorem addReroll_modifiers {reroll : Reroll} (bare : die.reroll = .never 0)
    (fits : reroll.Fits die.size die.count) :
    die.addReroll reroll.modifiers = .ok { die with reroll } := by
  cases reroll with
  | never count =>
      obtain rfl : count = 0 := fits
      obtain ⟨size, count, drop, reroll, cutoff, sign, explosive⟩ := die
      obtain rfl := bare
      rfl
  | above count threshold =>
      obtain ⟨_, most, atLeast, below⟩ := fits
      have countChecked : checkRerollCount count die.count = .ok () :=
        checkRerollCount_eq_ok_iff.mpr most
      have checked : checkRerollAbove threshold die.size = .ok () :=
        checkRerollAbove_eq_ok_iff.mpr ⟨atLeast, below⟩
      have built := rerollAbove_eq_ok_iff.mpr ⟨⟨atLeast, below⟩, most, rfl⟩
      simpa only [addReroll, Reroll.modifiers, List.foldlM_cons, List.foldlM_nil, RerollScan.add,
        RerollScan.setCondition, countChecked, checked, ok_bind, pure_eq_ok] using built
  | below count threshold =>
      obtain ⟨_, most, above, atMost⟩ := fits
      have countChecked : checkRerollCount count die.count = .ok () :=
        checkRerollCount_eq_ok_iff.mpr most
      have checked : checkRerollBelow threshold die.size = .ok () :=
        checkRerollBelow_eq_ok_iff.mpr ⟨above, atMost⟩
      have built := rerollBelow_eq_ok_iff.mpr ⟨⟨above, atMost⟩, most, rfl⟩
      simpa only [addReroll, Reroll.modifiers, List.foldlM_cons, List.foldlM_nil, RerollScan.add,
        RerollScan.setCondition, countChecked, checked, ok_bind, pure_eq_ok] using built

theorem addCutoff_modifiers {cutoff : Cutoff} (bare : die.cutoff = .none)
    (fits : cutoff.Fits die.size) :
    die.addCutoff cutoff.modifiers = .ok { die with cutoff } := by
  cases cutoff with
  | none =>
      obtain ⟨size, count, drop, reroll, cutoff, sign, explosive⟩ := die
      obtain rfl := bare
      rfl
  | minimum least =>
      have checked : checkMinimum least die.size = .ok () := checkMinimum_eq_ok_iff.mpr fits
      have built := raiseTo_eq_ok_iff.mpr ⟨fits, rfl⟩
      simpa only [addCutoff, Cutoff.modifiers, List.foldlM_cons, List.foldlM_nil, CutoffScan.add,
        checked, ok_bind, pure_eq_ok] using built
  | maximum greatest =>
      have checked : checkMaximum greatest die.size = .ok () := checkMaximum_eq_ok_iff.mpr fits
      have built := lowerTo_eq_ok_iff.mpr ⟨fits, rfl⟩
      simpa only [addCutoff, Cutoff.modifiers, List.foldlM_cons, List.foldlM_nil, CutoffScan.add,
        checked, ok_bind, pure_eq_ok] using built
  | between least greatest =>
      obtain ⟨above, ordered, below⟩ := fits
      have leastChecked : checkMinimum least die.size = .ok () :=
        checkMinimum_eq_ok_iff.mpr ⟨above, by omega⟩
      have greatestChecked : checkMaximum greatest die.size = .ok () :=
        checkMaximum_eq_ok_iff.mpr ⟨by omega, below⟩
      have built := clampBetween_eq_ok_iff.mpr
        ⟨⟨above, by omega⟩, ⟨by omega, below⟩, ordered, rfl⟩
      simpa only [addCutoff, Cutoff.modifiers, List.foldlM_cons, List.foldlM_nil, CutoffScan.add,
        leastChecked, greatestChecked, ok_bind, pure_eq_ok] using built

/-- The clauses of a well-formed group, written as modifiers and read again. -/
theorem addClauses_modifiers (formed : die.WellFormed)
    (few : ∀ positions, die.drop = .keeping positions → positions.length ≤ positionLimit) :
    addClauses { size := die.size, count := die.count, sign := die.sign, explosive := die.explosive }
      die.modifiers = .ok die := by
  simp only [addClauses, bind_eq_ok_iff]
  let dropped : Die :=
    { size := die.size, count := die.count, drop := die.drop, sign := die.sign,
      explosive := die.explosive }
  -- Each scan passes over the modifiers of the other families, so its own ones decide.
  refine ⟨dropped, ?_, { dropped with reroll := die.reroll }, ?_, ?_⟩
  · rw [← addDrop_ofFamily, ofFamily_drop_modifiers]
    exact addDrop_modifiers rfl formed.drop few
  · rw [← addReroll_ofFamily, ofFamily_reroll_modifiers]
    exact addReroll_modifiers rfl formed.reroll
  · rw [← addCutoff_ofFamily, ofFamily_cutoff_modifiers]
    exact addCutoff_modifiers rfl formed.cutoff

end Die
end DiceNotation
