import DiceNotation.Proofs.Bag.Reading
import DiceNotation.Proofs.Play.Totals

/-!
# What a drop takes away

A drop on one side takes so many of the least or of the greatest values, however many were rolled. A drop on both
sides keeps positions that are counted for one roll of each die, so the extra rolls of exploding dice push values
off its upper end.
-/

set_option autoImplicit false

namespace DiceNotation

/-! ## Values without their ends -/

/-- Some values without so many of the least and so many of the greatest of them, in any order. -/
structure Trims (values least rest greatest : List Int) : Prop where
  perm : (least ++ (rest ++ greatest)).Perm values
  least : ∀ low ∈ least, ∀ value ∈ rest ++ greatest, low ≤ value
  greatest : ∀ value ∈ rest, ∀ high ∈ greatest, value ≤ high

def WithoutEnds (lowest highest : Nat) (values rest : List Int) : Prop :=
  ∃ least greatest, least.length = lowest ∧ greatest.length = highest ∧
    Trims values least rest greatest

variable {values rest other : List Int} {lowest highest : Nat}

theorem ascending_pairwise (values : List Int) : (ascending values).Pairwise (· ≤ ·) := by
  have sorted := @List.pairwise_mergeSort _ (fun first second : Int => decide (first ≤ second))
    (fun _ _ _ => by simpa using Int.le_trans) (fun first second => by simpa using Int.le_total first second)
    values
  simpa [ascending] using sorted

theorem ascending_eq_of_perm {sorted : List Int} (ordered : sorted.Pairwise (· ≤ ·))
    (perm : sorted.Perm values) : ascending values = sorted :=
  ((ascending_perm values).trans perm.symm).eq_of_pairwise
    (fun _ _ _ _ => Int.le_antisymm) (ascending_pairwise values) ordered

theorem descending_eq_reverse (values : List Int) : descending values = (ascending values).reverse := by
  have sorted := @List.pairwise_mergeSort _ (fun first second : Int => decide (second ≤ first))
    (fun _ _ _ => by simpa using fun first second => Int.le_trans second first)
    (fun first second => by simpa using Int.le_total second first) values
  have ordered : (descending values).reverse.Pairwise (· ≤ ·) := by
    rw [List.pairwise_reverse]
    simpa [descending] using sorted
  rw [ascending_eq_of_perm ordered ((List.reverse_perm _).trans (descending_perm values)),
    List.reverse_reverse]

namespace WithoutEnds

theorem length (trimmed : WithoutEnds lowest highest values rest) :
    lowest + rest.length + highest = values.length := by
  obtain ⟨least, greatest, rfl, rfl, trims⟩ := trimmed
  rw [← trims.perm.length_eq]
  simp only [List.length_append]
  omega

theorem congr (trimmed : WithoutEnds lowest highest values rest) (perm : rest.Perm other) :
    WithoutEnds lowest highest values other := by
  obtain ⟨least, greatest, few, many, trims⟩ := trimmed
  refine ⟨least, greatest, few, many, ?_, ?_, ?_⟩
  · exact ((perm.symm.append_right greatest).append_left least).trans trims.perm
  · intro low member value present
    exact trims.least low member value ((perm.append_right greatest).mem_iff.mpr present)
  · intro value present
    exact trims.greatest value (perm.mem_iff.mpr present)

/-- The middle of the ascending order. -/
theorem ofSlice (enough : lowest + highest ≤ values.length) :
    WithoutEnds lowest highest values
      (((ascending values).drop lowest).take (values.length - lowest - highest)) := by
  have size := (ascending_perm values).length_eq
  have sorted := ascending_pairwise values
  have cut : ascending values =
      (ascending values).take lowest ++ (((ascending values).drop lowest).take
        (values.length - lowest - highest) ++ ((ascending values).drop lowest).drop
          (values.length - lowest - highest)) := by
    rw [List.take_append_drop, List.take_append_drop]
  refine ⟨(ascending values).take lowest,
    ((ascending values).drop lowest).drop (values.length - lowest - highest), ?_, ?_, ?_⟩
  · rw [List.length_take]
    omega
  · simp only [List.length_drop]
    omega
  · rw [cut] at sorted
    obtain ⟨_, inner, low⟩ := List.pairwise_append.mp sorted
    obtain ⟨_, _, high⟩ := List.pairwise_append.mp inner
    exact ⟨cut ▸ ascending_perm values, low, high⟩

end WithoutEnds

/-! ## Drops -/

namespace Drop

/-- How many of the lowest and of the highest rolls a drop of `count` dice asks to go. -/
inductive Ends (count : Nat) : Drop → Nat → Nat → Prop where
  | none : Ends count .none 0 0
  | lowest {number : Nat} : number < count → Ends count (.lowest number) number 0
  | highest {number : Nat} : number < count → Ends count (.highest number) 0 number
  | both {lowest highest : Nat} : lowest + highest < count →
      Ends count (.keeping (positionsFrom lowest ((count : Int) - highest))) lowest highest

theorem Fits.exists_ends {drop : Drop} {count : Nat} (fits : drop.Fits count) :
    ∃ lowest highest, drop.Ends count lowest highest := by
  cases drop with
  | none => exact ⟨0, 0, .none⟩
  | lowest number =>
      obtain ⟨nonneg, below⟩ := fits
      obtain ⟨number, rfl⟩ := Int.eq_ofNat_of_zero_le nonneg
      exact ⟨number, 0, .lowest (Int.ofNat_lt.mp below)⟩
  | highest number =>
      obtain ⟨nonneg, below⟩ := fits
      obtain ⟨number, rfl⟩ := Int.eq_ofNat_of_zero_le nonneg
      exact ⟨0, number, .highest (Int.ofNat_lt.mp below)⟩
  | keeping positions =>
      obtain ⟨lowest, highest, below, rfl⟩ := fits
      exact ⟨lowest, highest, .both below⟩

/-- How many of the highest rolls go beyond those that are asked to go, when so many dice were rolled. -/
def excess (count rolled : Nat) : Drop → Nat
  | .keeping _ => rolled - count
  | _ => 0

end Drop

theorem entryAt_natCast {entries : List Int} {index : Nat} (inside : index < entries.length) :
    entryAt entries.toArray (index : Int) = .ok entries[index] := by
  have nonneg : ¬ ((index : Int) < 0) := Int.not_lt.mpr (Int.natCast_nonneg index)
  simp [entryAt_eq_ok_iff, entryAt?, nonneg, inside]

theorem mapM_entryAt_positionsFrom {entries : List Int} {first bound : Nat}
    (inside : bound ≤ entries.length) :
    (positionsFrom first bound).mapM (entryAt entries.toArray) =
      .ok ((entries.drop first).take (bound - first)) := by
  rw [mapM_eq_ok_iff]
  refine List.forall₂_of_length_eq_of_get ?_ ?_
  · rw [length_positionsFrom, List.length_take, List.length_drop]
    omega
  · intro index below _
    rw [length_positionsFrom] at below
    have position : (positionsFrom first bound).get ⟨index, by rwa [length_positionsFrom]⟩ =
        ((first + index : Nat) : Int) := by
      simp [positionsFrom]
    rw [position, entryAt_natCast (by omega)]
    simp

namespace Die

variable {die : Die}

/-- A drop takes the ends that it asks for, and the excess on top. -/
theorem exists_keepRolls_of_ends {drop : Drop} (ends : drop.Ends die.count lowest highest)
    (enough : die.count ≤ values.length) :
    ∃ survivors, keepRolls values { die with drop } = .ok survivors ∧
      WithoutEnds lowest (highest + drop.excess die.count values.length) values survivors := by
  have size := (ascending_perm values).length_eq
  cases ends with
  | none =>
      refine ⟨values, rfl, [], [], rfl, rfl, ?_, by simp, by simp⟩
      simp
  | lowest below =>
      refine ⟨_, rfl, ?_⟩
      have slice : WithoutEnds lowest 0 values _ := .ofSlice (by omega)
      refine slice.congr ?_
      have kept : (values.length - (lowest : Int)).toNat = values.length - lowest := by omega
      have dropped : (ascending values).length - (values.length - lowest) = lowest := by omega
      rw [descending_eq_reverse, kept, List.take_reverse, dropped, Nat.sub_zero,
        List.take_of_length_le (Nat.le_of_eq (by rw [List.length_drop, size]))]
      exact (List.reverse_perm _).symm
  | highest below =>
      refine ⟨_, rfl, ?_⟩
      have slice : WithoutEnds 0 highest values _ := .ofSlice (by omega)
      refine slice.congr (List.Perm.of_eq ?_)
      rw [List.drop_zero]
      congr 1
      omega
  | both below =>
      have bound : ((die.count : Int) - highest) = ((die.count - highest : Nat) : Int) := by omega
      refine ⟨_, ?_, .ofSlice ?_⟩
      · simp only [keepRolls, bound]
        rw [mapM_entryAt_positionsFrom (by omega)]
        congr 2
        simp only [Drop.excess]
        omega
      · simp only [Drop.excess]
        omega

end Die

/-! ## Rolls before a drop -/

variable {State : Type} {generator : Generator State} {limit : Int} {desk finish : Desk State}
  {die : Die}

/-- The values of a group after its explosions, its rerolls and its clamp. -/
def rollValues (generator : Generator State) (die : Die) (limit : Int) : Play State (List Int) := do
  let raw ← rollDice generator die limit
  let rerolled ← rollAgain generator raw die
  return clampAll rerolled die

theorem rollGroup_eq_rollValues_bind (generator : Generator State) (die : Die) (limit : Int) :
    rollGroup generator die limit =
      rollValues generator die limit >>= fun values => Play.lift (keepRolls values die) := by
  simp only [rollGroup, rollValues, bind_assoc, pure_bind]

private theorem rollAgainFrom_withDrop (drop : Drop) (values : List Int) (left : Nat)
    (passed : List Int) :
    rollAgainFrom generator { die with drop } values left passed =
      rollAgainFrom generator die values left passed := by
  induction values generalizing left passed with
  | nil => rw [rollAgainFrom, rollAgainFrom]
  | cons value values ih =>
      cases left with
      | zero => rw [rollAgainFrom, rollAgainFrom] <;> simp
      | succ left =>
          rw [rollAgainFrom, rollAgainFrom]
          simp only [ih]

/-- What is rolled does not depend on what is dropped. -/
theorem rollValues_withDrop (generator : Generator State) (die : Die) (limit : Int) (drop : Drop) :
    rollValues generator { die with drop } limit = rollValues generator die limit := by
  simp only [rollValues, rollAgain, rollAgainFrom_withDrop, rollDice, clampAll]

theorem length_of_rollValues (rolled : (rollValues generator die limit).on desk = (.ok values, finish)) :
    die.count ≤ values.length ∧ (die.explosive = false → values.length = die.count) := by
  simp only [rollValues, Play.on_bind_eq_ok_iff, Play.on_pure_eq_ok_iff] at rolled
  obtain ⟨rolls, _, raw, passed, _, again, rfl, _⟩ := rolled
  obtain ⟨made, _⟩ := rolls_of_rollDice raw
  obtain ⟨_, _, rerolls, rfl, _⟩ := rerolls_of_rollAgainFrom again
  have same : (clampAll ([].reverse ++ _) die).length = rolls.length :=
    List.length_map .. |>.trans rerolls.length.1
  rw [same]
  exact ⟨made.length.1, made.length_of_plain⟩

/-- A roll of a group, whichever way its drop is written, loses the ends that the drop asks for exactly when the
drop is on one side or no extra roll was made. Otherwise the extra rolls are lost from the highest values too. -/
theorem Bag.roll_loses_ends_iff {text : Text} {bag : Bag} (read : ofText text = .ok bag) {die : Die}
    (member : .dice die ∈ bag.groups) :
    (∃ lowest highest, die.drop.Ends die.count lowest highest) ∧
      ∀ lowest highest drop, drop.Ends die.count lowest highest →
        ∀ (State : Type) (generator : Generator State) (limit : Int) (desk finish : Desk State)
          (values : List Int), (rollValues generator die limit).on desk = (.ok values, finish) →
          (die.explosive = false → values.length = die.count) ∧
            ∃ survivors,
              (rollGroup generator { die with drop } limit).on desk = (.ok survivors, finish) ∧
                WithoutEnds lowest (highest + drop.excess die.count values.length) values survivors ∧
                (WithoutEnds lowest highest values survivors ↔
                  drop.excess die.count values.length = 0) := by
  refine ⟨((wellFormed_of_ofText read).groups _ member).drop.exists_ends, ?_⟩
  intro lowest highest drop ends State generator limit desk finish values rolled
  obtain ⟨enough, exact⟩ := length_of_rollValues rolled
  obtain ⟨survivors, kept, trimmed⟩ := die.exists_keepRolls_of_ends ends enough
  refine ⟨exact, survivors, ?_, trimmed, ?_⟩
  · rw [rollGroup_eq_rollValues_bind, rollValues_withDrop, Play.on_bind_eq_ok_iff]
    exact ⟨values, finish, rolled, Play.on_lift_eq_ok_iff.mpr ⟨kept, rfl⟩⟩
  · constructor
    · intro asked
      have size := asked.length
      have sizeTrimmed := trimmed.length
      omega
    · intro none
      rwa [none, Nat.add_zero] at trimmed

/-- Four dice that lose their lowest and their highest roll. -/
theorem Bag.roll_loses_ends_of_four_dice :
    let die : Die := { size := 6, count := 4, drop := .keeping [1, 2] }
    let desk : Desk (List Int) := { source := [6, 1, 3, 4] }
    ofText (Text.of "4d6dl1dh1") = .ok { groups := [.dice die] } ∧ die.drop.Ends 4 1 1 ∧
      ∃ survivors, ((rollGroup .replay die 100).on desk).1 = .ok survivors ∧
        WithoutEnds 1 1 [6, 1, 3, 4] survivors := by
  intro die desk
  have read : ofText (Text.of "4d6dl1dh1") = .ok { groups := [.dice die] } := by decide +kernel
  have ends : die.drop.Ends 4 1 1 := @Drop.Ends.both 4 1 1 (by decide)
  have rolled : (rollValues .replay die 100).on desk = (.ok [6, 1, 3, 4], _) := rfl
  obtain ⟨_, survivors, kept, _, iff⟩ := (roll_loses_ends_iff read List.mem_cons_self).2 1 1 die.drop
    ends (List Int) .replay 100 desk _ _ rolled
  exact ⟨read, ends, survivors, congrArg Prod.fst kept, iff.mpr rfl⟩

/-- Two exploding dice that roll two extra values. Dropping none of the highest beside none of the lowest loses both
of them, and dropping none of the lowest alone loses nothing. -/
theorem Bag.roll_loses_extra_rolls :
    let die : Die := { size := 6, count := 2, drop := .keeping [0, 1], explosive := true }
    let desk : Desk (List Int) := { source := [6, 3, 6, 2] }
    ofText (Text.of "2d6dl0dh0!") = .ok { groups := [.dice die] } ∧
      ofText (Text.of "2d6dl0!") = .ok { groups := [.dice { die with drop := .lowest 0 }] } ∧
      die.drop.Ends 2 0 0 ∧ ((rollValues .replay die 100).on desk).1 = .ok [6, 3, 6, 2] ∧
      ((rollGroup .replay die 100).on desk).1 = .ok [2, 3] ∧
      ((rollGroup .replay { die with drop := .lowest 0 } 100).on desk).1 = .ok [6, 6, 3, 2] ∧
      ¬ WithoutEnds 0 0 [6, 3, 6, 2] [2, 3] := by
  intro die desk
  have sorted : ascending [6, 3, 6, 2] = [2, 3, 6, 6] :=
    ascending_eq_of_perm (by decide) (by decide)
  have rolled : (rollValues .replay die 100).on desk = (.ok [6, 3, 6, 2], _) := rfl
  refine ⟨by decide +kernel, by decide +kernel, @Drop.Ends.both 2 0 0 (by decide), rfl, ?_, ?_, ?_⟩
  · rw [rollGroup_eq_rollValues_bind, Play.on_bind, rolled]
    simp only [keepRolls, sorted]
    rfl
  · rw [rollGroup_eq_rollValues_bind, rollValues_withDrop, Play.on_bind, rolled]
    simp only [keepRolls, descending_eq_reverse, sorted]
    rfl
  · intro trimmed
    exact absurd trimmed.length (by decide)

end DiceNotation
