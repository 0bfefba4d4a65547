import DiceNotation.Distribution
import DiceNotation.Proofs.Notation.Numerals
import DiceNotation.Proofs.Play.Reports

/-!
# Histograms

A distribution is the histogram of the rolls that were made. The invariant of its loop is a table that has an entry
for every seed and for every total so far, and no others.
-/

set_option autoImplicit false

namespace DiceNotation

/-! ## Ranges -/

theorem Span.low_le_high_foldl_add {groups : List Group} {span : Span} (ordered : span.low ≤ span.high) :
    (groups.foldl add span).low ≤ (groups.foldl add span).high := by
  induction groups generalizing span with
  | nil => exact ordered
  | cons group groups ih => exact ih (ordered_low_le_high _ _)

theorem Bag.range_low_le_high (bag : Bag) : bag.range.low ≤ bag.range.high :=
  Span.low_le_high_foldl_add (Int.le_refl 0)

/-! ## Sums -/

private theorem totalOf_map_add (values : List Int) (first second : Int → Int) :
    totalOf (values.map fun value => first value + second value) =
      totalOf (values.map first) + totalOf (values.map second) := by
  induction values with
  | nil => rfl
  | cons value values ih =>
      simp only [totalOf, List.map_cons, List.foldr_cons] at ih ⊢
      omega

private theorem totalOf_map_ite_eq {keys : List Int} (nodup : keys.Nodup) (key : Int) (weight : Int → Int) :
    totalOf (keys.map fun other => if other = key then weight other else 0) = if key ∈ keys then weight key else 0 := by
  induction keys with
  | nil => rfl
  | cons first keys ih =>
      obtain ⟨fresh, nodup⟩ := List.nodup_cons.mp nodup
      have rest := ih nodup
      simp only [totalOf, List.map_cons, List.foldr_cons, List.mem_cons] at rest ⊢
      rw [rest]
      by_cases same : first = key
      · subst same
        simp [fresh]
      · have other : ¬ key = first := fun equal => same equal.symm
        simp [same, other]

private theorem totalOf_map_mul_count {keys : List Int} (nodup : keys.Nodup) {totals : List Int}
    (covered : ∀ total ∈ totals, total ∈ keys) (weight : Int → Int) :
    totalOf (keys.map fun key => weight key * (totals.count key : Int)) = totalOf (totals.map weight) := by
  induction totals with
  | nil =>
      simp only [List.count_nil, Int.natCast_zero, Int.mul_zero, List.map_const', totalOf_replicate, Int.zero_mul]
      rfl
  | cons total totals ih =>
      obtain ⟨known, covered⟩ := List.forall_mem_cons.mp covered
      have split : ∀ key, weight key * ((total :: totals).count key : Int) =
          (if key = total then weight key else 0) + weight key * (totals.count key : Int) := by
        intro key
        by_cases same : key = total
        · subst same
          simp [Int.mul_add, Int.add_comm]
        · have other : ¬ total = key := fun equal => same equal.symm
          simp [same, other]
      simp only [split, totalOf_map_add, ih covered, totalOf_map_ite_eq nodup, if_pos known]
      rfl

/-! ## Rolling keeps the level of remarks -/

section Threshold

variable {State : Type} {generator : Generator State} {limit : Int} {desk finish : Desk State}

theorem threshold_of_repeats {bag : Bag} {totals : List Int}
    (rolled : (rollTotal generator bag limit).Repeats desk totals finish) :
    finish.journal.threshold = desk.journal.threshold := by
  induction rolled with
  | nil => rfl
  | cons first _ ih =>
      obtain ⟨report, rolled, _⟩ := Report.on_rollTotal_eq_ok_iff.mp first
      exact ih.trans (Report.threshold_of_roll rolled)

end Threshold

namespace Distribution

/-! ## Tables -/

/-- The table has an entry for each seed and each total, with the number of times it is a total. -/
def Tallies (seeds totals : List Int) (table : Std.TreeMap Int Int) : Prop :=
  ∀ key, table[key]? = if key ∈ seeds ∨ key ∈ totals then some (totals.count key : Int) else none

theorem Tallies.getD_eq {seeds totals : List Int} {table : Std.TreeMap Int Int} (tallies : Tallies seeds totals table)
    (key : Int) : table.getD key 0 = totals.count key := by
  rw [Std.TreeMap.getD_eq_getD_getElem?, tallies key]
  split
  · rfl
  · next unknown =>
      have absent : key ∉ totals := fun member => unknown (.inr member)
      simp [List.count_eq_zero.mpr absent]

theorem Tallies.seeded {before : List Int} {table : Std.TreeMap Int Int} (tallies : Tallies before [] table)
    (seed : Int) : Tallies (before ++ [seed]) [] (table.insert seed 0) := by
  intro key
  rw [Std.TreeMap.getElem?_insert, tallies key]
  by_cases same : seed = key
  · simp [same]
  · have other : ¬ key = seed := fun equal => same equal.symm
    simp [same, other]

theorem Tallies.counted {seeds totals : List Int} {table : Std.TreeMap Int Int} (tallies : Tallies seeds totals table)
    (total : Int) : Tallies seeds (totals ++ [total]) (counted table total) := by
  intro key
  rw [Distribution.counted, Std.TreeMap.getElem?_insert, tallies.getD_eq, tallies key]
  by_cases same : total = key
  · simp [same, List.count_append]
  · have other : ¬ key = total := fun equal => same equal.symm
    simp [same, other, List.count_append]

/-- What each step of a pass keeps, about the values so far and the memory, holds at the end. -/
private theorem foldl_keeps {Value Memory : Type} {step : Memory → Value → Memory}
    (Holds : List Value → Memory → Prop)
    (keeps : ∀ before value memory, Holds before memory → Holds (before ++ [value]) (step memory value))
    {values before : List Value} {memory : Memory} (start : Holds before memory) :
    Holds (before ++ values) (values.foldl step memory) := by
  induction values generalizing before memory with
  | nil =>
      rw [List.append_nil]
      exact start
  | cons value values ih =>
      have rest := ih (keeps before value memory start)
      rw [List.append_assoc] at rest
      exact rest

theorem tallies_foldl_counted (bag : Bag) (totals : List Int) :
    Tallies bag.range.toList totals (totals.foldl counted (Distribution.seeded bag)) := by
  have empty : Tallies [] [] {} := fun key => by simp
  have unrolled : Tallies bag.range.toList [] (Distribution.seeded bag) :=
    foldl_keeps (fun seeds table => Tallies seeds [] table) (fun _ seed _ tallies => tallies.seeded seed) empty
  exact foldl_keeps (Tallies bag.range.toList) (fun _ total _ tallies => tallies.counted total) unrolled

/-- The ascending table of all totals in the range and all totals that came up, with how often they did. -/
structure Histogram (bag : Bag) (totals : List Int) (table : Counts) : Prop where
  ascending : table.Pairwise fun first second => first.1 < second.1
  mem_iff : ∀ key count, (key, count) ∈ table ↔
    ((bag.range.low ≤ key ∧ key ≤ bag.range.high) ∨ key ∈ totals) ∧ (totals.count key : Int) = count

theorem Tallies.histogram {bag : Bag} {totals : List Int} {table : Std.TreeMap Int Int}
    (tallies : Tallies bag.range.toList totals table) : Histogram bag totals table.toList where
  ascending := Std.TreeMap.ordered_keys_toList.imp fun {first second} ordered => by
    exact Std.compare_eq_lt.mp ordered
  mem_iff key count := by
    rw [Std.TreeMap.mem_toList_iff_getElem?_eq_some, tallies key, ← Span.mem_toList]
    split
    · next known => simp [known]
    · next unknown => simp [unknown]

namespace Histogram

variable {bag : Bag} {totals : List Int} {table : Counts}

theorem nodup (histogram : Histogram bag totals table) : (table.map Prod.fst).Nodup :=
  List.pairwise_map.mpr (histogram.ascending.imp fun ordered => Int.ne_of_lt ordered)

theorem mem_keys_iff (histogram : Histogram bag totals table) {key : Int} :
    key ∈ table.map Prod.fst ↔ (bag.range.low ≤ key ∧ key ≤ bag.range.high) ∨ key ∈ totals := by
  simp [histogram.mem_iff]

theorem ne_nil (histogram : Histogram bag totals table) : table ≠ [] := by
  have member := histogram.mem_keys_iff.mpr (.inl ⟨Int.le_refl _, bag.range_low_le_high⟩)
  rintro rfl
  cases member

/-- A sum over the table with the counts as weights is the sum over the totals. -/
theorem total_weighted (histogram : Histogram bag totals table) (weight : Int → Int) :
    totalOf (table.map fun entry => weight entry.1 * entry.2) = totalOf (totals.map weight) := by
  have counts : table.map (fun entry => weight entry.1 * entry.2) =
      (table.map Prod.fst).map fun key => weight key * (totals.count key : Int) := by
    rw [List.map_map]
    refine List.map_congr_left fun entry member => ?_
    obtain ⟨key, count⟩ := entry
    obtain ⟨_, rfl⟩ := (histogram.mem_iff key count).mp member
    rfl
  rw [counts]
  exact totalOf_map_mul_count histogram.nodup (fun total member => histogram.mem_keys_iff.mpr (.inr member)) weight

theorem total_counts (histogram : Histogram bag totals table) : totalOf (table.map Prod.snd) = totals.length := by
  have total := histogram.total_weighted fun _ => 1
  simp only [Int.one_mul, List.map_const', totalOf_replicate] at total
  exact total

theorem pos_of_outside (histogram : Histogram bag totals table) {key count : Int} (entry : (key, count) ∈ table)
    (outside : ¬ (bag.range.low ≤ key ∧ key ≤ bag.range.high)) : 0 < count := by
  obtain ⟨known, rfl⟩ := (histogram.mem_iff key count).mp entry
  exact Int.natCast_pos.mpr (List.count_pos_iff.mpr (known.resolve_left outside))

end Histogram

/-! ## Rolling -/

/-- How many of its rolls a distribution makes that may be cancelled. -/
def rollsMade (rolls : Nat) : Option Nat → Nat
  | none => rolls
  | some allowed => min rolls allowed

theorem rollsMade_succ_some_zero (left : Nat) : rollsMade (left + 1) (some 0) = 0 :=
  Nat.min_zero _

theorem rollsMade_succ {left : Nat} {cancelAfter : Option Nat} (goesOn : cancelAfter ≠ some 0) :
    rollsMade (left + 1) cancelAfter = rollsMade left (cancelAfter.map Nat.pred) + 1 := by
  cases cancelAfter with
  | none => rfl
  | some allowed =>
      cases allowed with
      | zero => exact absurd rfl goesOn
      | succ allowed => exact Nat.succ_min_succ left allowed

section Rolling

variable {State : Type} {generator : Generator State} {bag : Bag} {rolls limit : Int} {desk middle : Desk State}
  {totals : List Int}

/-- What is remarked after so many rolls, when some of those that were left have not been made. -/
def closing (rolls : Int) (left made done : Nat) : Play State Unit :=
  if made < left then Play.note .info .sampling (cancelledRemark done rolls) else pure ()

theorem on_countRolls_of_repeats {left done : Nat} {cancelAfter : Option Nat} {table : Std.TreeMap Int Int}
    (rolled : (rollTotal generator bag limit).Repeats desk totals middle)
    (made : totals.length = rollsMade left cancelAfter) :
    (countRolls generator bag rolls limit left done cancelAfter table).on desk =
      (closing rolls left totals.length (done + totals.length) >>= fun _ => pure (totals.foldl counted table)).on
        middle := by
  induction rolled generalizing left done cancelAfter table with
  | nil =>
      cases left with
      | zero => rfl
      | succ left =>
          by_cases stops : cancelAfter = some 0
          · rw [countRolls, if_pos stops, closing, List.length_nil, if_pos left.succ_pos]
            rfl
          · rw [rollsMade_succ stops] at made
            cases made
  | @cons _ _ _ total totals first _ ih =>
      cases left with
      | zero =>
          cases cancelAfter <;> simp [rollsMade] at made
      | succ left =>
          have goesOn : cancelAfter ≠ some 0 := by
            rintro rfl
            rw [rollsMade_succ_some_zero] at made
            cases made
          rw [rollsMade_succ goesOn, List.length_cons, Nat.add_right_cancel_iff] at made
          have count : done + 1 + totals.length = done + (total :: totals).length := by
            rw [List.length_cons]
            omega
          rw [countRolls, if_neg goesOn, Play.on_bind, first]
          simp only [ih made, count, closing, List.length_cons, Nat.add_lt_add_iff_right, List.foldl_cons]

theorem on_sample_of_repeats {cancelAfter : Option Nat}
    (rolled : (rollTotal generator bag limit).Repeats desk totals middle)
    (made : totals.length = rollsMade rolls.toNat cancelAfter) :
    (sample generator bag rolls limit cancelAfter).on desk =
      (closing rolls rolls.toNat totals.length totals.length >>= fun _ =>
        pure (totals.foldl counted (seeded bag)).toList).on middle := by
  rw [sample, Play.on_bind, on_countRolls_of_repeats rolled made, ← Play.on_bind]
  simp only [bind_assoc, pure_bind, Nat.zero_add]

/-- The remark on a distribution that stopped early is not made, or all of its numbers can be written. -/
def RemarkFits (journal : Journal) (done : Nat) (rolls : Int) : Prop :=
  done < rolls.toNat → journal.keeps .info = true → Numeral.fits rolls = true

theorem remarkFits_iff_takes {journal : Journal} {done : Nat} (cancelled : done < rolls.toNat) :
    RemarkFits journal done rolls ↔ journal.Takes .info (cancelledRemark done rolls) := by
  constructor
  · intro fits kept
    have most := fits cancelled kept
    have fewer : Numeral.fits done = true := Numeral.fits_of_le (Int.natCast_nonneg done) (by omega) most
    simp [cancelledRemark, Piece.fits, most, fewer]
  · intro takes _ kept
    have written := takes kept
    simp only [cancelledRemark, List.forall_mem_cons] at written
    exact written.2.2.2.1

theorem exists_on_closing {done : Nat} (fits : RemarkFits desk.journal done rolls) :
    ∃ finish, (closing rolls rolls.toNat done done).on desk = (.ok (), finish) ∧
      finish.source = desk.source ∧ finish.draws = desk.draws := by
  rw [closing]
  split
  · next cancelled =>
      obtain ⟨finish, noted⟩ := Play.exists_on_note_eq_ok_iff.mpr ((remarkFits_iff_takes cancelled).mp fits)
      obtain ⟨_, rfl⟩ := Play.exists_of_on_note noted
      exact ⟨_, noted, rfl, rfl⟩
  · exact ⟨desk, rfl, rfl, rfl⟩

theorem on_closing_of_not_remarkFits {done : Nat} (unfit : ¬ RemarkFits desk.journal done rolls) :
    (closing rolls rolls.toNat done done).on desk = (.error .numberTooLong, desk) := by
  have cancelled : done < rolls.toNat := (Classical.not_imp.mp unfit).1
  rw [closing, if_pos cancelled]
  exact Play.on_note_of_not_takes (mt (remarkFits_iff_takes cancelled).mpr unfit)

/-- A distribution is the histogram of the rolls that it makes. When it is cancelled it is the one of fewer rolls, if
the remark on that can be made. -/
theorem sample_is_histogram {cancelAfter : Option Nat}
    (made : totals.length = rollsMade rolls.toNat cancelAfter)
    (rolled : (rollTotal generator bag limit).Repeats desk totals middle) :
    ∃ table, Histogram bag totals table ∧ totalOf (table.map Prod.snd) = totals.length ∧
      (∀ key count, (key, count) ∈ table → ¬ (bag.range.low ≤ key ∧ key ≤ bag.range.high) → 0 < count) ∧
      table ≠ [] ∧
      (sample generator bag totals.length limit none).on desk = (.ok table, middle) ∧
      ∃ outcome finish, (sample generator bag rolls limit cancelAfter).on desk = (outcome, finish) ∧
        finish.source = middle.source ∧ finish.draws = middle.draws ∧
        (RemarkFits desk.journal totals.length rolls → outcome = .ok table) ∧
        (¬ RemarkFits desk.journal totals.length rolls → outcome = .error .numberTooLong) := by
  have histogram := (tallies_foldl_counted bag totals).histogram
  have whole : (sample generator bag totals.length limit none).on desk = _ :=
    on_sample_of_repeats rolled (Int.toNat_natCast _).symm
  rw [Int.toNat_natCast, closing, if_neg (Nat.lt_irrefl _), pure_bind] at whole
  refine ⟨_, histogram, histogram.total_counts, fun _ _ => histogram.pos_of_outside, histogram.ne_nil, whole, ?_⟩
  have same : RemarkFits middle.journal totals.length rolls ↔ RemarkFits desk.journal totals.length rolls := by
    rw [RemarkFits, RemarkFits, Journal.keeps, threshold_of_repeats rolled]
    rfl
  rw [on_sample_of_repeats rolled made, Play.on_bind, ← same]
  by_cases fits : RemarkFits middle.journal totals.length rolls
  · obtain ⟨finish, closed, source, draws⟩ := exists_on_closing fits
    rw [closed]
    exact ⟨_, finish, rfl, source, draws, fun _ => rfl, fun unfit => absurd fits unfit⟩
  · rw [on_closing_of_not_remarkFits fits]
    exact ⟨_, middle, rfl, rfl, rfl, fun fit => absurd fit fits, fun _ => rfl⟩

end Rolling

/-- Two rolls of a die out of three. -/
theorem sample_is_histogram_two_of_three :
    let bag : Bag := { groups := [.dice { size := 4, count := 1 }] }
    let desk : Desk (List Int) := { source := [3, 1, 4] }
    [3, 1].length = rollsMade (3 : Int).toNat (some 2) ∧
      ∃ middle, (rollTotal .replay bag 100).Repeats desk [3, 1] middle ∧
        ∃ table, Histogram bag [3, 1] table ∧
          ∃ finish, (sample .replay bag 3 100 (some 2)).on desk = (.ok table, finish) := by
  intro bag desk
  have rolled : (rollTotal .replay bag 100).Repeats desk [3, 1] _ := .cons rfl (.cons rfl .nil)
  have made : [3, 1].length = rollsMade (3 : Int).toNat (some 2) := rfl
  refine ⟨made, _, rolled, ?_⟩
  obtain ⟨table, histogram, _, _, _, _, outcome, finish, run, _, _, writable, _⟩ := sample_is_histogram made rolled
  have fits : RemarkFits desk.journal 2 3 := fun _ kept => by cases kept
  exact ⟨table, histogram, finish, by rw [run, writable fits]⟩

/-- A roll out of so many that the remark on the others cannot be written. -/
theorem sample_fails_of_unwritable_rolls :
    let bag : Bag := { groups := [.dice { size := 4, count := 1 }] }
    let desk : Desk Unit := { source := (), journal := { threshold := .info } }
    let rolls : Int := Numeral.powerOfTen Numeral.digitLimit
    [4].length = rollsMade rolls.toNat (some 1) ∧
      ∃ middle, (rollTotal .highest bag 100).Repeats desk [4] middle ∧
        (sample .highest bag rolls 100 (some 1)).on desk = (.error .numberTooLong, middle) := by
  intro bag desk rolls
  have rolled : (rollTotal .highest bag 100).Repeats desk [4] _ := .cons rfl .nil
  have made : [4].length = rollsMade rolls.toNat (some 1) := by decide +kernel
  refine ⟨made, _, rolled, ?_⟩
  rw [on_sample_of_repeats rolled made, Play.on_bind, on_closing_of_not_remarkFits]
  have unfit : ¬ (1 < rolls.toNat → desk.journal.keeps .info = true → Numeral.fits rolls = true) := by
    decide +kernel
  exact unfit

end Distribution
end DiceNotation
