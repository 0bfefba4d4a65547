import DiceNotation.Proofs.Die.Outsized

/-!
# Routes to a drop on both sides

Rolls go on both sides of a group by two operations in either order, by one operation, or by two modifiers that name
the rolls that go or the rolls that stay. Every route checks some numbers by themselves and then keeps the middle, so
all of them accept the same pairs and make the same group. A rejection may name another number on another route.
-/

set_option autoImplicit false

namespace DiceNotation

/-! ## Checks one after the other -/

theorem checkDrop_of_lt {dropped count : Int} (below : dropped < count) : checkDrop dropped count = .ok () :=
  if_neg (Int.not_le.mpr below)

theorem checkDrop_of_le {dropped count : Int} (many : count ≤ dropped) :
    checkDrop dropped count = reject (.excessiveDrop dropped count) :=
  if_pos many

/-- Rejects the first number of rolls that leaves no die. -/
def checkDrops (count : Int) : List Int → Except Failure Unit
  | [] => .ok ()
  | number :: numbers => do
      checkDrop number count
      checkDrops count numbers

theorem checkDrops_of_lt {numbers : List Int} {count : Int} (below : ∀ number ∈ numbers, number < count) :
    checkDrops count numbers = .ok () := by
  induction numbers with
  | nil => rfl
  | cons number numbers ih =>
      obtain ⟨own, others⟩ := List.forall_mem_cons.mp below
      rw [checkDrops, checkDrop_of_lt own, ok_bind, ih others]

theorem checkDrops_of_le {numbers : List Int} {count : Int} (many : ∃ number ∈ numbers, count ≤ number) :
    ∃ first ∈ numbers, count ≤ first ∧ checkDrops count numbers = reject (.excessiveDrop first count) := by
  induction numbers with
  | nil => simp at many
  | cons number numbers ih =>
      by_cases own : count ≤ number
      · exact ⟨number, List.mem_cons_self, own, by rw [checkDrops, checkDrop_of_le own, reject_bind]⟩
      · obtain ⟨first, member, leaves, rejected⟩ := ih (by simpa [own] using many)
        refine ⟨first, List.mem_cons_of_mem _ member, leaves, ?_⟩
        rw [checkDrops, checkDrop_of_lt (Int.not_le.mp own), ok_bind, rejected]

namespace Die

variable {die : Die}

/-! ## Routes -/

/-- Whether a modifier names the rolls of a side that go or the rolls that stay. -/
inductive Wording where
  | dropping
  | keeping
  deriving DecidableEq, Repr

namespace Wording

/-- The modifier that lets so many of the lowest rolls of `count` dice go. -/
def lowest (count number : Int) : Wording → Modifier
  | dropping => ⟨.dropLowest, number⟩
  | keeping => ⟨.keepHighest, count - number⟩

/-- The modifier that lets so many of the highest rolls of `count` dice go. -/
def highest (count number : Int) : Wording → Modifier
  | dropping => ⟨.dropHighest, number⟩
  | keeping => ⟨.keepLowest, count - number⟩

/-- Who names the rolls that stay lets some roll go, and names no negative number. -/
def Expresses (count number : Int) : Wording → Prop
  | dropping => True
  | keeping => 1 ≤ number ∧ number ≤ count

end Wording

/-- A way to let rolls on both sides of a group go. -/
inductive EndsRoute where
  | lowestFirst
  | highestFirst
  | atOnce
  | lowestWorded (low high : Wording)
  | highestWorded (low high : Wording)
  deriving DecidableEq, Repr

namespace EndsRoute

def run (die : Die) (lowest highest : Int) : EndsRoute → Except Failure Die
  | lowestFirst => do
      let made ← die.dropLowest lowest
      made.dropHighest highest
  | highestFirst => do
      let made ← die.dropHighest highest
      made.dropLowest lowest
  | atOnce => die.dropEnds lowest highest
  | lowestWorded low high => die.addDrop [low.lowest die.count lowest, high.highest die.count highest]
  | highestWorded low high => die.addDrop [high.highest die.count highest, low.lowest die.count lowest]

/-- The route has words for both numbers. -/
def Open (count lowest highest : Int) : EndsRoute → Prop
  | lowestWorded low high | highestWorded low high =>
      low.Expresses count lowest ∧ high.Expresses count highest
  | _ => True

/-- The numbers that a route checks by themselves before it keeps the middle. -/
def checked (lowest highest : Int) : EndsRoute → List Int
  | lowestFirst | lowestWorded _ _ => [lowest, highest]
  | highestFirst | highestWorded _ _ => [highest, lowest]
  | atOnce => []

end EndsRoute

/-! ## One side -/

/-- Keeping all but so many rolls is dropping so many. -/
theorem droppedByKeeping_sub {number : Int} (positive : 1 ≤ number) :
    die.droppedByKeeping (die.count - number) = die.droppedByNumber number := by
  have same : (die.count : Int) - (die.count - number) = number := by omega
  rw [droppedByKeeping, if_neg (by omega), same, droppedByNumber]

namespace Wording

variable {wording : Wording} {number : Int}

theorem add_lowest (expresses : wording.Expresses die.count number) (other : Option Int) :
    DropScan.add die ⟨none, other⟩ (wording.lowest die.count number) =
      (checkDrop number die.count >>= fun _ => .ok ⟨some number, other⟩) := by
  have noted : DropScan.add die ⟨none, other⟩ (wording.lowest die.count number) =
      DropScan.setLowest ⟨none, other⟩ (die.droppedByNumber number) := by
    cases wording with
    | dropping => rfl
    | keeping => exact congrArg (DropScan.setLowest ⟨none, other⟩) (droppedByKeeping_sub expresses.1)
  rw [noted, DropScan.setLowest, droppedByNumber, bind_assoc]
  rfl

theorem add_highest (expresses : wording.Expresses die.count number) (other : Option Int) :
    DropScan.add die ⟨other, none⟩ (wording.highest die.count number) =
      (checkDrop number die.count >>= fun _ => .ok ⟨other, some number⟩) := by
  have noted : DropScan.add die ⟨other, none⟩ (wording.highest die.count number) =
      DropScan.setHighest ⟨other, none⟩ (die.droppedByNumber number) := by
    cases wording with
    | dropping => rfl
    | keeping => exact congrArg (DropScan.setHighest ⟨other, none⟩) (droppedByKeeping_sub expresses.1)
  rw [noted, DropScan.setHighest, droppedByNumber, bind_assoc]
  rfl

end Wording

/-! ## Both sides -/

namespace EndsRoute

variable {lowest highest : Int} {route : EndsRoute}

/-- Every route is some checks and then the middle. -/
theorem run_eq (whole : die.drop = .none) (way : route.Open die.count lowest highest) :
    route.run die lowest highest =
      (checkDrops die.count (route.checked lowest highest) >>= fun _ => die.keepMiddle lowest highest) := by
  cases route with
  | atOnce => simp only [run, dropEnds, whole, checked, checkDrops, ok_bind]
  | lowestFirst =>
      simp only [run, dropLowest, dropHighest, whole, checked, checkDrops, bind_assoc, pure_bind, ok_bind]
      rfl
  | highestFirst =>
      simp only [run, dropLowest, dropHighest, whole, checked, checkDrops, bind_assoc, pure_bind, ok_bind]
      rfl
  | lowestWorded low high | highestWorded low high =>
      simp only [run, addDrop, List.foldlM_cons, List.foldlM_nil, low.add_lowest way.1, high.add_highest way.2,
        bind_assoc, pure_bind, ok_bind, dropEnds, whole, checked, checkDrops]

theorem run_of_lt (whole : die.drop = .none) (way : route.Open die.count lowest highest)
    (few : die.count ≤ positionLimit) (lowestNonneg : 0 ≤ lowest) (highestNonneg : 0 ≤ highest)
    (stays : lowest + highest < die.count) :
    route.run die lowest highest =
      .ok { die with drop := .keeping (positionsFrom lowest (die.count - highest)) } := by
  have checks : checkDrops die.count (route.checked lowest highest) = .ok () := by
    refine checkDrops_of_lt fun number member => ?_
    have either : number = lowest ∨ number = highest := by
      cases route <;> simp [checked] at member <;> omega
    omega
  rw [run_eq whole way, checks, ok_bind]
  exact keepMiddle_eq_ok_iff.mpr ⟨stays, by omega, rfl⟩

/-- Whichever number a rejection names, it is not greater than the sum of both. -/
theorem run_of_le (whole : die.drop = .none) (way : route.Open die.count lowest highest)
    (lowestNonneg : 0 ≤ lowest) (highestNonneg : 0 ≤ highest) (goes : die.count ≤ lowest + highest) :
    ∃ dropped, 0 ≤ dropped ∧ dropped ≤ lowest + highest ∧
      route.run die lowest highest = reject (.excessiveDrop dropped die.count) := by
  rw [run_eq whole way]
  by_cases early : ∃ number ∈ route.checked lowest highest, (die.count : Int) ≤ number
  · obtain ⟨first, member, _, rejected⟩ := checkDrops_of_le early
    have either : first = lowest ∨ first = highest := by
      cases route <;> simp [checked] at member <;> omega
    exact ⟨first, by omega, by omega, by rw [rejected, reject_bind]⟩
  · have checks : checkDrops die.count (route.checked lowest highest) = .ok () :=
      checkDrops_of_lt fun number member => Int.not_le.mp fun many => early ⟨number, member, many⟩
    refine ⟨lowest + highest, by omega, Int.le_refl _, ?_⟩
    rw [checks, ok_bind, keepMiddle, checkDrop_of_le goes, reject_bind]

end EndsRoute

/-! ## Dropping again -/

/-- No operation that drops rolls has a result, nor have modifiers that drop some. -/
structure RefusesDrops (die : Die) : Prop where
  lowest : ∀ number, die.dropLowest number = .error (.rejected (.duplicateDrop (Text.of "dl/kh")))
  highest : ∀ number, die.dropHighest number = .error (.rejected (.duplicateDrop (Text.of "dh/kl")))
  ends : ∀ low high, die.dropEnds low high = .error (.rejected .conflictingDrops)
  modifiers : ∀ modifiers, Modifier.ofFamily .drop modifiers ≠ [] → ∀ made, die.addDrop modifiers ≠ .ok made

theorem refusesDrops_of_keeping {positions : List Int} (keeps : die.drop = .keeping positions) :
    die.RefusesDrops := by
  have lowest : ∀ number, die.dropLowest number = .error (.rejected (.duplicateDrop (Text.of "dl/kh"))) := by
    intro number
    rw [dropLowest, keeps]
    rfl
  have highest : ∀ number, die.dropHighest number = .error (.rejected (.duplicateDrop (Text.of "dh/kl"))) := by
    intro number
    rw [dropHighest, keeps]
    rfl
  have ends : ∀ low high, die.dropEnds low high = .error (.rejected .conflictingDrops) := by
    intro low high
    rw [dropEnds, keeps]
    rfl
  refine ⟨lowest, highest, ends, fun modifiers nonempty made built => ?_⟩
  rw [← addDrop_ofFamily] at built
  simp only [addDrop, bind_eq_ok_iff] at built
  obtain ⟨scan, scanned, built⟩ := built
  -- A modifier that drops rolls notes a side, and then one of the operations is called.
  have sides := DropScan.sides_of_foldlM (by simp [Modifier.ofFamily]) scanned
  have noted : 0 < scan.sides := by
    have length := List.length_pos_iff.mpr nonempty
    omega
  obtain ⟨low, high⟩ := scan
  cases low <;> cases high <;> simp [lowest, highest, ends, DropScan.sides] at built noted

/-! ## Agreement -/

/-- All routes to a drop on both sides make the same group when a die stays and are rejected when none does. The
rejection can be worded on every route exactly when the sum of both numbers is not too long, and a group that drops
on both sides drops no more. -/
theorem routes_to_ends_agree {lowest highest : Int} (whole : die.drop = .none) (few : die.count ≤ positionLimit)
    (lowestNonneg : 0 ≤ lowest) (highestNonneg : 0 ≤ highest) :
    (lowest + highest < die.count →
      ∃ made : Die, made = { die with drop := .keeping (positionsFrom lowest (die.count - highest)) } ∧
        made.keptCount = die.count - lowest - highest ∧
        ∀ route : EndsRoute, route.Open die.count lowest highest → route.run die lowest highest = .ok made) ∧
      (die.count ≤ lowest + highest →
        (∀ route : EndsRoute, route.Open die.count lowest highest →
          ∃ dropped, route.run die lowest highest = reject (.excessiveDrop dropped die.count)) ∧
        ((∀ route : EndsRoute, route.Open die.count lowest highest → ∃ dropped,
            route.run die lowest highest = .error (.rejected (.excessiveDrop dropped die.count))) ↔
          Numeral.fits (lowest + highest) = true)) ∧
      ∀ (other : Die) (positions : List Int), other.drop = .keeping positions → other.RefusesDrops := by
  refine ⟨fun stays => ⟨_, rfl, ?_, fun route way => ?_⟩, fun goes => ⟨fun route way => ?_, ?_, ?_⟩,
    fun other positions keeps => refusesDrops_of_keeping keeps⟩
  · simp only [keptCount, Drop.kept, length_positionsFrom]
    omega
  · exact EndsRoute.run_of_lt whole way few lowestNonneg highestNonneg stays
  · obtain ⟨dropped, _, _, rejected⟩ := EndsRoute.run_of_le whole way lowestNonneg highestNonneg goes
    exact ⟨dropped, rejected⟩
  · intro worded
    have way : EndsRoute.Open die.count lowest highest .atOnce := trivial
    obtain ⟨dropped, rejected⟩ := worded .atOnce way
    have sum : EndsRoute.run die lowest highest .atOnce = reject (.excessiveDrop (lowest + highest) die.count) := by
      rw [EndsRoute.run_eq whole way, EndsRoute.checked, checkDrops, ok_bind, keepMiddle, checkDrop_of_le goes,
        reject_bind]
    rw [sum] at rejected
    exact (reject_eq_rejected_iff.mp rejected).1 (.number (lowest + highest)) (by simp [NotationError.message])
  · intro short route way
    obtain ⟨dropped, nonneg, most, rejected⟩ := EndsRoute.run_of_le whole way lowestNonneg highestNonneg goes
    have droppedFits : Numeral.fits dropped = true := Numeral.fits_of_le nonneg most short
    have countFits : Numeral.fits die.count = true := Numeral.fits_of_le (Int.natCast_nonneg _) goes short
    refine ⟨dropped, rejected.trans (reject_eq_rejected_iff.mpr ⟨?_, rfl⟩)⟩
    simp [NotationError.message, Piece.fits, droppedFits, countFits]

theorem routes_to_ends_agree_of_five_dice :
    (∃ made : Die, made = { plain 6 5 with drop := .keeping [2, 3] } ∧ made.keptCount = 2 ∧
        ∀ route : EndsRoute, route.Open 5 2 1 → route.run (plain 6 5) 2 1 = .ok made) ∧
      ∀ route : EndsRoute, route.Open 5 3 2 →
        ∃ dropped, route.run (plain 6 5) 3 2 = .error (.rejected (.excessiveDrop dropped 5)) := by
  have stays := (@routes_to_ends_agree (plain 6 5) 2 1 rfl (by decide) (by decide) (by decide)).1
  have goes := (@routes_to_ends_agree (plain 6 5) 3 2 rfl (by decide) (by decide) (by decide)).2.1
  exact ⟨stays (by decide), (goes (by decide)).2.mpr (by decide +kernel)⟩

/-- The rejection of a number with more digits than a number may have to be written is no rejection. -/
theorem ends_fail_of_unwritable_lowest :
    let lowest : Int := Numeral.powerOfTen Numeral.digitLimit
    1 ≤ lowest + 0 ∧ EndsRoute.run (plain 6 1) lowest 0 .atOnce = .error .numberTooLong := by
  decide +kernel

end Die
end DiceNotation
