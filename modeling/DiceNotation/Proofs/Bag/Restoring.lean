import DiceNotation.Bag.Ranged
import DiceNotation.Proofs.Bag.RoundTrip
import DiceNotation.Proofs.Document.RoundTrip
import DiceNotation.Proofs.Play.Histogram

/-!
# Bags that are restored

The document of a bag names the kind of each group and of each clause, and the check for that kind gives back what was
written. So a bag comes back from its text with every group and clause, and with the range that it had.
-/

set_option autoImplicit false

namespace DiceNotation

open Document (checkList checkWhole)

/-! ## Lists -/

theorem Checked.all_map_ok {Value : Type} (values : List Value) :
    Checked.all (values.map Checked.value) = .ok values := by
  induction values with
  | nil => rfl
  | cons value values ih =>
      rw [Checked.all] at ih ⊢
      rw [List.map_cons, List.foldr_cons, ih]
      rfl

/-- A list is taken back when every item is. -/
theorem Document.checkList_map {Value : Type} (check : List Step → Document → Checked Value) (write : Value → Document)
    (restores : ∀ path value, check path (write value) = .ok value) (path : List Step) (values : List Value) :
    checkList check path (.list (values.map write)) = .ok values := by
  have parts : (values.map write).mapIdx (fun index item => check (path ++ [.item index]) item) =
      values.map Checked.value := by
    refine List.ext_getElem (by simp) fun index _ _ => ?_
    simp only [List.getElem_mapIdx, List.getElem_map, restores]
    rfl
  rw [checkList, parts, Checked.all_map_ok]

/-! ## Clauses -/

theorem Sign.check_document (path : List Step) (sign : Sign) : Sign.check path sign.document = .ok sign := by
  cases sign <;> rfl

theorem Drop.check_document (path : List Step) (drop : Drop) : Drop.check path drop.document = .ok drop := by
  cases drop with
  | none | lowest number | highest number => rfl
  | keeping positions =>
      change (checkList checkWhole _ (.list (positions.map Document.number))).map Drop.keeping = _
      rw [Document.checkList_map checkWhole Document.number fun _ _ => rfl]
      rfl

theorem Reroll.check_document (path : List Step) (reroll : Reroll) :
    Reroll.check path reroll.document = .ok reroll := by
  cases reroll <;> rfl

theorem Cutoff.check_document (path : List Step) (cutoff : Cutoff) :
    Cutoff.check path cutoff.document = .ok cutoff := by
  cases cutoff <;> rfl

/-! ## Groups and bags -/

theorem Document.checkCount_number (path : List Step) (count : Nat) :
    checkCount path (.number count) = .ok count := by
  rw [checkCount, checkWhole]
  exact if_neg (Int.not_lt.mpr (Int.natCast_nonneg count))

theorem Bonus.check_document (path : List Step) (flat : Bonus) :
    Group.check path flat.document = .ok (.bonus flat) := by
  simp [Group.check, Bonus.document, Document.checkTagged, Document.field?, Group.checkKind?, Bonus.checkFields,
    Document.required, Document.optional, Document.checkKind, checkWhole, Checked.both, Sign.check_document, Except.map]

theorem Die.check_document (path : List Step) (die : Die) :
    Group.check path die.document = .ok (.dice die) := by
  simp [Group.check, Die.document, Document.checkTagged, Document.field?, Group.checkKind?, Die.checkFields,
    Document.required, Document.optional, Document.checkKind, checkWhole, Checked.both, Sign.check_document,
    Drop.check_document, Reroll.check_document, Cutoff.check_document, Document.checkCount_number,
    Document.checkTruth, Except.map]

theorem Group.check_document (path : List Step) (group : Group) : Group.check path group.document = .ok group := by
  cases group with
  | dice die => exact die.check_document path
  | bonus flat => exact flat.check_document path

theorem Bag.check_document (bag : Bag) : Bag.check bag.document = .ok bag := by
  change (checkList Group.check _ (.list (bag.groups.map Group.document))).map _ = _
  rw [Document.checkList_map Group.check Group.document Group.check_document]
  rfl

/-! ## Numbers in documents -/

/-- The numbers in a group. -/
def Group.numbers : Group → List Int
  | .dice die => die.numbers
  | .bonus flat => [flat.value]

/-- No number in the group is too long to be written. -/
def Group.Short (group : Group) : Prop :=
  ∀ number ∈ group.numbers, Numeral.fits number = true

instance (group : Group) : Decidable group.Short :=
  inferInstanceAs (Decidable (∀ number ∈ group.numbers, Numeral.fits number = true))

theorem Sign.exact_document (sign : Sign) : sign.document.Exact :=
  .text _

theorem Drop.exact_document {drop : Drop} (short : ∀ number ∈ drop.numbers, Numeral.fits number = true) :
    drop.document.Exact := by
  cases drop with
  | none => simp [Drop.document]
  | lowest | highest | keeping => simpa [Drop.document, Drop.numbers, Document.ofNumbers] using short

theorem Reroll.exact_document {reroll : Reroll} (short : ∀ number ∈ reroll.numbers, Numeral.fits number = true) :
    reroll.document.Exact := by
  cases reroll <;> simpa [Reroll.document, Reroll.numbers] using short

theorem Cutoff.exact_document {cutoff : Cutoff} (short : ∀ number ∈ cutoff.numbers, Numeral.fits number = true) :
    cutoff.document.Exact := by
  cases cutoff with
  | none => simp [Cutoff.document]
  | minimum | maximum | between => simpa [Cutoff.document, Cutoff.numbers] using short

theorem Group.exact_document {group : Group} (short : group.Short) : group.document.Exact := by
  cases group with
  | bonus flat =>
      have value : Numeral.fits flat.value = true := short flat.value List.mem_cons_self
      simp [Group.document, Bonus.document, Sign.exact_document, value]
  | dice die =>
      have numbers : ∀ number ∈ die.numbers, Numeral.fits number = true := short
      simp only [Die.numbers, List.forall_mem_append, List.forall_mem_cons] at numbers
      obtain ⟨⟨⟨⟨size, count, _⟩, drop⟩, reroll⟩, cutoff⟩ := numbers
      simp [Group.document, Die.document, size, count, Drop.exact_document drop, Reroll.exact_document reroll,
        Cutoff.exact_document cutoff, Sign.exact_document]

/-- A bag comes back from its text with every group and clause. -/
theorem Bag.ofJson_toJson {bag : Bag} (short : ∀ group ∈ bag.groups, group.Short) : ofJson bag.toJson = .ok bag := by
  have groups : ∀ group ∈ bag.groups, group.document.Exact :=
    fun group member => Group.exact_document (short group member)
  have whole : bag.document.Exact := by simpa [Bag.document] using groups
  rw [ofJson, toJson, Document.read?_write whole]
  simp only [Bag.check_document, Checked.result]

/-! ## Bags with their range -/

namespace RangedBag

/-- The bags that can be made from groups with short numbers, by copying a bag, with such groups or its own, and by
restoring a bag from its text. -/
inductive Reached : RangedBag → Prop where
  | made {groups : List Group} : (∀ group ∈ groups, group.Short) → Reached (ofGroups groups)
  | copied {held : RangedBag} {update : Option (List Group)} : Reached held →
      (∀ groups ∈ update, ∀ group ∈ groups, group.Short) → Reached (held.copy update)
  | restored {held back : RangedBag} : Reached held → ofJson held.toJson = .ok back → Reached back

variable {held back : RangedBag}

/-- The bag can be written, and holds the range of the groups that it has now. -/
structure Sound (held : RangedBag) : Prop where
  short : ∀ group ∈ held.bag.groups, group.Short
  range : held.range = Span.ofGroups held.bag.groups

theorem sound_ofBag {bag : Bag} (short : ∀ group ∈ bag.groups, group.Short) : (ofBag bag).Sound :=
  ⟨short, rfl⟩

theorem Sound.eq_ofBag (sound : held.Sound) : ofBag held.bag = held := by
  obtain ⟨bag, range⟩ := held
  exact congrArg (RangedBag.mk bag) sound.range.symm

theorem Sound.copy {update : Option (List Group)} (sound : held.Sound)
    (short : ∀ groups ∈ update, ∀ group ∈ groups, group.Short) : (held.copy update).Sound := by
  cases update with
  | none => exact ⟨sound.short, rfl⟩
  | some groups => exact ⟨short groups rfl, rfl⟩

theorem Sound.ofJson_toJson (sound : held.Sound) : ofJson held.toJson = .ok held := by
  rw [ofJson, toJson, Bag.ofJson_toJson sound.short]
  exact congrArg Except.ok sound.eq_ofBag

theorem Reached.sound (reached : Reached held) : held.Sound := by
  induction reached with
  | made short => exact sound_ofBag short
  | copied _ short ih => exact ih.copy short
  | restored _ read ih =>
      rw [ih.ofJson_toJson] at read
      cases read
      exact ih

/-- However a bag was made, copied and restored, it comes back from its text equal to itself, with the range that its
groups have. -/
theorem reached_restores (reached : Reached held) :
    ∃ back, ofJson held.toJson = .ok back ∧ back = held ∧
      held.range = Span.ofGroups held.bag.groups ∧ back.range = Span.ofGroups back.bag.groups ∧
      held.range.low ≤ held.range.high := by
  have sound := reached.sound
  refine ⟨held, sound.ofJson_toJson, rfl, sound.range, sound.range, ?_⟩
  rw [sound.range]
  exact held.bag.range_low_le_high

/-- A copy with other groups, in which clauses of different kinds stand side by side. -/
theorem reached_restores_copy :
    let groups : List Group :=
      [.dice { size := 20, count := 15, drop := .keeping [4, 5, 6, 7], cutoff := .minimum 2, explosive := true },
        .dice { size := 6, count := 4, drop := .lowest 1, reroll := .above 2 4, sign := .minus },
        .dice { size := 8, count := 0, reroll := .below 1 3, cutoff := .between 2 7 },
        .bonus { value := -2, sign := .minus }]
    let held := (ofGroups [.dice { size := 6, count := 2 }]).copy (some groups)
    ∃ back, ofJson held.toJson = .ok back ∧ back = held ∧ held.range = ⟨7, 64⟩ ∧ back.range = ⟨7, 64⟩ := by
  intro groups held
  have short : ∀ other ∈ some groups, ∀ group ∈ other, group.Short := by
    rintro _ ⟨⟩
    decide +kernel
  have reached : Reached held := .copied (.made (by decide +kernel)) short
  obtain ⟨back, restored, same, before, _⟩ := reached_restores reached
  have worked : held.range = ⟨7, 64⟩ := before.trans (by decide +kernel)
  exact ⟨back, restored, same, worked, same ▸ worked⟩

end RangedBag
end DiceNotation
