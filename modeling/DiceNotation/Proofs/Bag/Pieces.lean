import DiceNotation.Proofs.Session.Answers

/-!
# Expressions piece by piece

An expression is cut at its signs, and each piece is an expression of its own. What the whole stands for is put
together from what the pieces stand for. All pieces are taken apart before the first group is built, so a piece that
cannot be taken apart comes before every piece whose group cannot be built, wherever the two stand.
-/

set_option autoImplicit false

namespace DiceNotation

/-! ## Signs -/

namespace Die

variable (die : Die) (sign : Sign)

private theorem dropLowest_withSign (number : Int) :
    ({ die with sign } : Die).dropLowest number =
      (fun made => { made with sign }) <$> die.dropLowest number := by
  unfold dropLowest
  cases die.drop with
  | none => simp only [map_bind, map_pure]
  | lowest _ | keeping _ => simp only [map_reject]
  | highest highest => simp only [keepMiddle, map_bind, map_pure]

private theorem dropHighest_withSign (number : Int) :
    ({ die with sign } : Die).dropHighest number =
      (fun made => { made with sign }) <$> die.dropHighest number := by
  unfold dropHighest
  cases die.drop with
  | none => simp only [map_bind, map_pure]
  | highest _ | keeping _ => simp only [map_reject]
  | lowest lowest => simp only [keepMiddle, map_bind, map_pure]

private theorem dropEnds_withSign (lowest highest : Int) :
    ({ die with sign } : Die).dropEnds lowest highest =
      (fun made => { made with sign }) <$> die.dropEnds lowest highest := by
  unfold dropEnds
  cases die.drop with
  | none => simp only [keepMiddle, map_bind, map_pure]
  | lowest _ | highest _ | keeping _ => simp only [map_reject]

theorem addDrop_withSign (modifiers : List Modifier) :
    ({ die with sign } : Die).addDrop modifiers =
      (fun made => { made with sign }) <$> die.addDrop modifiers := by
  have scans : DropScan.add { die with sign } = DropScan.add die := rfl
  simp only [addDrop, scans, map_bind]
  congr 1
  funext scan
  obtain ⟨lowest, highest⟩ := scan
  cases lowest with
  | none =>
      cases highest with
      | none => rfl
      | some highest => exact dropHighest_withSign die sign highest
  | some lowest =>
      cases highest with
      | none => exact dropLowest_withSign die sign lowest
      | some highest => exact dropEnds_withSign die sign lowest highest

theorem addReroll_withSign (modifiers : List Modifier) :
    ({ die with sign } : Die).addReroll modifiers =
      (fun made => { made with sign }) <$> die.addReroll modifiers := by
  have scans : RerollScan.add { die with sign } = RerollScan.add die := rfl
  simp only [addReroll, scans, map_bind]
  congr 1
  funext scan
  obtain ⟨count, condition⟩ := scan
  cases count with
  | none =>
      cases condition with
      | none => rfl
      | some _ => simp only [map_reject]
  | some count =>
      cases condition with
      | none => simp only [map_reject]
      | some condition =>
          cases condition with
          | above threshold => simp only [rerollAbove, map_bind, map_pure]
          | below threshold => simp only [rerollBelow, map_bind, map_pure]

theorem addCutoff_withSign (modifiers : List Modifier) :
    ({ die with sign } : Die).addCutoff modifiers =
      (fun made => { made with sign }) <$> die.addCutoff modifiers := by
  have scans : CutoffScan.add { die with sign } = CutoffScan.add die := rfl
  simp only [addCutoff, scans, map_bind]
  congr 1
  funext scan
  obtain ⟨minimum, maximum⟩ := scan
  cases minimum with
  | none =>
      cases maximum with
      | none => rfl
      | some maximum => simp only [lowerTo, map_bind, map_pure]
  | some minimum =>
      cases maximum with
      | none => simp only [raiseTo, map_bind, map_pure]
      | some maximum => simp only [clampBetween, map_bind, apply_ite, map_pure, map_reject]

theorem addClauses_withSign (modifiers : List Modifier) :
    ({ die with sign } : Die).addClauses modifiers =
      (fun made => { made with sign }) <$> die.addClauses modifiers := by
  simp only [addClauses, addDrop_withSign, addReroll_withSign, addCutoff_withSign, map_bind, bind_map_left]

end Die

theorem Group.ofToken_withSign (sign : Sign) (text : Text) (body : TokenBody) :
    ofToken ⟨sign, text, body⟩ = withSign sign <$> ofToken ⟨.plus, text, body⟩ := by
  cases body with
  | bonus value => rfl
  | dice count size explosive modifiers =>
      let plain : Die := { size, count, explosive }
      have signed : ({ plain with sign } : Die).addClauses modifiers =
          (fun made => { made with sign }) <$> plain.addClauses modifiers :=
        plain.addClauses_withSign sign modifiers
      simp only [ofToken, map_bind, map_pure]
      rw [signed, bind_map_left]
      rfl

/-! ## Pieces -/

namespace Notation

/-- A text over the alphabet of expressions that is not empty and has no sign. -/
structure IsPiece (text : Text) : Prop where
  nonempty : text ≠ []
  allowed : ∀ char ∈ text, char ∈ allowedCharacters
  unsigned : Unsigned text

theorem isPiece_iff {text : Text} :
    IsPiece text ↔ text ≠ [] ∧
      (text.all fun char => decide (char ∈ allowedCharacters) && (Sign.ofChar? char).isNone) = true := by
  simp only [List.all_eq_true, Bool.and_eq_true, decide_eq_true_eq, Option.isNone_iff_eq_none]
  constructor
  · intro piece
    exact ⟨piece.nonempty, fun char member => ⟨piece.allowed char member, piece.unsigned char member⟩⟩
  · intro given
    exact ⟨given.1, fun char member => (given.2 char member).1, fun char member => (given.2 char member).2⟩

instance (text : Text) : Decidable (IsPiece text) :=
  decidable_of_iff _ isPiece_iff.symm

/-- Pieces with the signs between them; the first one has none in front of it. -/
def joinedPieces (first : Text) (later : List (Sign × Text)) : Text :=
  first ++ spelledPieces later

theorem cutAtSigns_spelledPieces {later : List (Sign × Text)} (unsigned : ∀ piece ∈ later, Unsigned piece.2) :
    cutAtSigns (spelledPieces later) = ([], later) := by
  induction later with
  | nil => rfl
  | cons piece later ih =>
      obtain ⟨sign, text⟩ := piece
      obtain ⟨own, others⟩ := List.forall_mem_cons.mp unsigned
      have spelled : spelledPieces ((sign, text) :: later) = sign.symbol :: (text ++ spelledPieces later) := rfl
      rw [spelled, cutAtSigns_cons_symbol, cutAtSigns_append own, ih others, List.append_nil]

theorem allowed_joinedPieces {first : Text} {later : List (Sign × Text)}
    (allowed : ∀ piece ∈ (Sign.plus, first) :: later, ∀ char ∈ piece.2, char ∈ allowedCharacters) :
    ∀ char ∈ joinedPieces first later, char ∈ allowedCharacters := by
  obtain ⟨own, others⟩ := List.forall_mem_cons.mp allowed
  intro char member
  rcases List.mem_append.mp member with member | member
  · exact own char member
  · obtain ⟨⟨sign, text⟩, present, member⟩ := List.mem_flatMap.mp member
    rcases List.mem_cons.mp member with rfl | member
    · change sign.symbol ∈ allowedCharacters
      cases sign <;> decide
    · exact others (sign, text) present char member

end Notation

open Notation

theorem Token.listOfText_joinedPieces {first : Text} {later : List (Sign × Text)}
    (valid : ∀ piece ∈ (Sign.plus, first) :: later, IsPiece piece.2) :
    listOfText (joinedPieces first later) =
      ((Sign.plus, first) :: later).mapM fun (sign, text) => ofPiece sign text := by
  have allowed := allowed_joinedPieces fun piece member => (valid piece member).allowed
  have cut : signedPieces (joinedPieces first later) = .ok ((.plus, first) :: later) := by
    obtain ⟨own, others⟩ := List.forall_mem_cons.mp valid
    refine signedPieces_eq_ok_iff.mpr ⟨fun piece member => (valid piece member).nonempty, ?_⟩
    rw [joinedPieces, cutAtSigns_append own.unsigned,
      cutAtSigns_spelledPieces fun piece member => (others piece member).unsigned, List.append_nil]
  simp only [listOfText, cleaned_of_allowed allowed, checkCharacters_eq_ok_iff.mpr allowed, cut, ok_bind]

namespace Bag

def Decodes (text : Text) : Prop :=
  ∃ body, Token.bodyOfText text = .ok body

/-- The group of a piece by itself, which is added. -/
def groupOfPiece (text : Text) : Except Failure Group := do
  let token ← Token.ofPiece .plus text
  Group.ofToken token

/-- A piece is taken apart and its group is built. -/
def Builds (text : Text) : Prop :=
  ∃ group, groupOfPiece text = .ok group

theorem ofPiece_bind_ofToken (sign : Sign) (text : Text) :
    (Token.ofPiece sign text >>= Group.ofToken) = Group.withSign sign <$> groupOfPiece text := by
  simp only [groupOfPiece, Token.ofPiece, bind_assoc, pure_bind, map_bind]
  congr 1
  funext body
  exact Group.ofToken_withSign sign text body

variable {first : Text} {later : List (Sign × Text)}

/-- All pieces are taken apart before the first group is built. -/
theorem ofText_joinedPieces (valid : ∀ piece ∈ (Sign.plus, first) :: later, IsPiece piece.2) :
    ofText (joinedPieces first later) = mk <$> (do
      let tokens ← ((Sign.plus, first) :: later).mapM fun (sign, text) => Token.ofPiece sign text
      tokens.mapM Group.ofToken) := by
  simp only [ofText, Token.listOfText_joinedPieces valid, map_bind, bind_pure_comp]

theorem ofText_joinedPieces_eq_ok_iff {bag : Bag}
    (valid : ∀ piece ∈ (Sign.plus, first) :: later, IsPiece piece.2) :
    ofText (joinedPieces first later) = .ok bag ↔
      List.Forall₂ (fun piece group => ∃ alone, groupOfPiece piece.2 = .ok alone ∧ alone.withSign piece.1 = group)
        ((.plus, first) :: later) bag.groups := by
  obtain ⟨groups⟩ := bag
  simp only [ofText_joinedPieces valid, map_eq_ok_iff, mk.injEq, exists_eq_right, mapM_bind_mapM_eq_ok_iff,
    ofPiece_bind_ofToken]

theorem exists_withSign_groupOfPiece_iff {sign : Sign} {text : Text} :
    (∃ group, Group.withSign sign <$> groupOfPiece text = .ok group) ↔ Builds text := by
  simp only [map_eq_ok_iff]
  constructor
  · intro given
    obtain ⟨_, alone, made, _⟩ := given
    exact ⟨alone, made⟩
  · intro builds
    obtain ⟨alone, made⟩ := builds
    exact ⟨_, alone, made, rfl⟩

theorem exists_ofText_joinedPieces_iff (valid : ∀ piece ∈ (Sign.plus, first) :: later, IsPiece piece.2) :
    (∃ bag, ofText (joinedPieces first later) = .ok bag) ↔ ∀ piece ∈ (Sign.plus, first) :: later, Builds piece.2 := by
  have each := @exists_mapM_eq_ok_iff _ _
    (fun piece : Sign × Text => Group.withSign piece.1 <$> groupOfPiece piece.2) ((.plus, first) :: later)
  simp only [exists_withSign_groupOfPiece_iff, mapM_eq_ok_iff] at each
  simp only [← each, map_eq_ok_iff]
  constructor
  · intro given
    obtain ⟨bag, read⟩ := given
    exact ⟨bag.groups, (ofText_joinedPieces_eq_ok_iff valid).mp read⟩
  · intro given
    obtain ⟨groups, related⟩ := given
    exact ⟨⟨groups⟩, (ofText_joinedPieces_eq_ok_iff valid).mpr related⟩

theorem ofText_piece {text : Text} (piece : IsPiece text) :
    ofText text = (fun group => ⟨[group]⟩) <$> groupOfPiece text := by
  have joined : joinedPieces text [] = text := List.append_nil text
  have valid : ∀ piece ∈ [(Sign.plus, text)], IsPiece piece.2 := by simpa using piece
  have whole := ofText_joinedPieces valid
  rw [joined] at whole
  rw [whole, groupOfPiece]
  simp only [List.mapM_cons, List.mapM_nil, map_bind, bind_pure_comp, map_pure, bind_map_left, Functor.map_map]

theorem ofText_piece_eq_ok_iff {text : Text} {bag : Bag} (piece : IsPiece text) :
    ofText text = .ok bag ↔ ∃ group, groupOfPiece text = .ok group ∧ ⟨[group]⟩ = bag := by
  rw [ofText_piece piece, map_eq_ok_iff]

theorem ofText_piece_eq_error_iff {text : Text} {failure : Failure} (piece : IsPiece text) :
    ofText text = .error failure ↔ groupOfPiece text = .error failure := by
  rw [ofText_piece piece, map_eq_error_iff]

theorem builds_iff_exists_ofText {text : Text} (piece : IsPiece text) :
    Builds text ↔ ∃ bag, ofText text = .ok bag := by
  simp only [ofText_piece_eq_ok_iff piece]
  constructor
  · intro builds
    obtain ⟨group, made⟩ := builds
    exact ⟨⟨[group]⟩, group, made, rfl⟩
  · intro given
    obtain ⟨_, group, made, _⟩ := given
    exact ⟨group, made⟩

theorem ofPiece_eq_error_iff {sign : Sign} {text : Text} {failure : Failure} :
    Token.ofPiece sign text = .error failure ↔ ¬ Decodes text ∧ groupOfPiece text = .error failure := by
  simp only [Token.ofPiece, groupOfPiece, bind_eq_error_iff, pure_ne_error, and_false, exists_false, or_false,
    Decodes]
  cases Token.bodyOfText text with
  | ok body => simp
  | error failed => simp

theorem Builds.decodes {text : Text} (builds : Builds text) : Decodes text := by
  obtain ⟨group, made⟩ := builds
  obtain ⟨token, read, _⟩ := bind_eq_ok_iff.mp made
  exact Token.exists_ofPiece_iff.mp ⟨token, read⟩

/-- An expression fails as its first piece that cannot be taken apart, or else as its first without a group. -/
theorem ofText_joinedPieces_eq_error_iff {failure : Failure}
    (valid : ∀ piece ∈ (Sign.plus, first) :: later, IsPiece piece.2) :
    ofText (joinedPieces first later) = .error failure ↔
      Reaches (fun piece => Decodes piece.2) (fun piece => ¬ Decodes piece.2 ∧ ofText piece.2 = .error failure)
          ((Sign.plus, first) :: later) ∨
        (∀ piece ∈ (Sign.plus, first) :: later, Decodes piece.2) ∧
          Reaches (fun piece => Builds piece.2) (fun piece => ¬ Builds piece.2 ∧ ofText piece.2 = .error failure)
            ((Sign.plus, first) :: later) := by
  rw [ofText_joinedPieces valid, map_eq_error_iff, mapM_bind_mapM_eq_error_iff]
  refine or_congr (Reaches.congr (fun piece _ => ?_) fun piece member => ?_)
    (and_congr (forall₂_congr fun piece _ => ?_) (Reaches.congr (fun piece _ => ?_) fun piece member => ?_))
  · exact Token.exists_ofPiece_iff
  · rw [ofPiece_eq_error_iff, ofText_piece_eq_error_iff (valid piece member)]
  · exact Token.exists_ofPiece_iff
  · rw [ofPiece_bind_ofToken]
    exact exists_withSign_groupOfPiece_iff
  · rw [ofPiece_bind_ofToken, map_eq_error_iff, ofText_piece_eq_error_iff (valid piece member)]
    refine ⟨fun failed => ⟨fun builds => ?_, failed⟩, fun given => given.2⟩
    obtain ⟨group, made⟩ := builds
    rw [made] at failed
    cases failed

/-! ## Reading piece by piece -/

/-- How a joined expression is read, in terms of how each of its pieces is read alone. -/
structure ReadsPiecewise (reading : Text → Except Failure Bag) (first : Text) (later : List (Sign × Text)) :
    Prop where
  succeeds_iff : (∃ bag, reading (joinedPieces first later) = .ok bag) ↔
    ∀ piece ∈ (Sign.plus, first) :: later, ∃ bag, reading piece.2 = .ok bag
  groups : ∀ bag, reading (joinedPieces first later) = .ok bag →
    List.Forall₂ (fun piece group => ∃ alone, reading piece.2 = .ok ⟨[alone]⟩ ∧ alone.withSign piece.1 = group)
      ((.plus, first) :: later) bag.groups
  fails_iff : ∀ failure, reading (joinedPieces first later) = .error failure ↔
    Reaches (fun piece => Decodes piece.2) (fun piece => ¬ Decodes piece.2 ∧ reading piece.2 = .error failure)
        ((Sign.plus, first) :: later) ∨
      (∀ piece ∈ (Sign.plus, first) :: later, Decodes piece.2) ∧
        Reaches (fun piece => Builds piece.2) (fun piece => ¬ Builds piece.2 ∧ reading piece.2 = .error failure)
          ((Sign.plus, first) :: later)

theorem readsPiecewise_ofText (valid : ∀ piece ∈ (Sign.plus, first) :: later, IsPiece piece.2) :
    ReadsPiecewise ofText first later where
  succeeds_iff := (exists_ofText_joinedPieces_iff valid).trans
    (forall₂_congr fun piece member => builds_iff_exists_ofText (valid piece member))
  groups bag read := by
    have related := (ofText_joinedPieces_eq_ok_iff valid).mp read
    refine ((List.forall₂_and_left _ _).mpr ⟨valid, related⟩).imp fun piece group given => ?_
    obtain ⟨own, alone, made, signed⟩ := given
    exact ⟨alone, (ofText_piece_eq_ok_iff own).mpr ⟨alone, made, rfl⟩, signed⟩
  fails_iff failure := ofText_joinedPieces_eq_error_iff valid

section Remarks

variable {State : Type}

variable {desk : Desk State} {expression : Text}

theorem readsPiecewise_reading_iff (desk : Desk State)
    (valid : ∀ piece ∈ (Sign.plus, first) :: later, IsPiece piece.2) :
    ReadsPiecewise (reading desk) first later ↔
      ((∀ piece ∈ (Sign.plus, first) :: later, Builds piece.2) →
        RemarkFits desk.journal (joinedPieces first later) ∧
          ∀ piece ∈ (Sign.plus, first) :: later, RemarkFits desk.journal piece.2) := by
  have plain := readsPiecewise_ofText valid
  constructor
  · intro piecewise built
    have whole : ∃ bag, reading desk (joinedPieces first later) = .ok bag := by
      cases outcome : reading desk (joinedPieces first later) with
      | ok bag => exact ⟨bag, rfl⟩
      | error failure =>
          -- A failure of the remark is none of a piece that is not taken apart or has no group.
          rcases (piecewise.fails_iff failure).mp outcome with reached | ⟨_, reached⟩
          · obtain ⟨piece, member, undecoded, _⟩ := reached.exists_mem
            exact absurd (built piece member).decodes undecoded
          · obtain ⟨piece, member, unbuilt, _⟩ := reached.exists_mem
            exact absurd (built piece member) unbuilt
    have each := piecewise.succeeds_iff.mp whole
    obtain ⟨bag, read⟩ := whole
    refine ⟨(reading_eq_ok_iff.mp read).2, fun piece member => ?_⟩
    obtain ⟨alone, read⟩ := each piece member
    exact (reading_eq_ok_iff.mp read).2
  · intro fits
    have unbuilt : ∀ piece ∈ (Sign.plus, first) :: later, ¬ Builds piece.2 →
        reading desk piece.2 = ofText piece.2 := fun piece member failed =>
      reading_of_fits (remarkFits_of_failed fun made =>
        failed ((builds_iff_exists_ofText (valid piece member)).mpr made))
    have whole : reading desk (joinedPieces first later) = ofText (joinedPieces first later) := by
      by_cases built : ∀ piece ∈ (Sign.plus, first) :: later, Builds piece.2
      · exact reading_of_fits (fits built).1
      · exact reading_of_fits (remarkFits_of_failed fun made =>
          built ((exists_ofText_joinedPieces_iff valid).mp made))
    constructor
    case succeeds_iff =>
      rw [whole, exists_ofText_joinedPieces_iff valid]
      constructor
      · intro built piece member
        rw [reading_of_fits ((fits built).2 piece member)]
        exact (builds_iff_exists_ofText (valid piece member)).mp (built piece member)
      · intro read piece member
        obtain ⟨bag, made⟩ := read piece member
        exact (builds_iff_exists_ofText (valid piece member)).mpr ⟨bag, (reading_eq_ok_iff.mp made).1⟩
    case groups =>
      intro bag made
      rw [whole] at made
      have built := (exists_ofText_joinedPieces_iff valid).mp ⟨bag, made⟩
      refine ((List.forall₂_and_left _ _).mpr ⟨(fits built).2, plain.groups bag made⟩).imp fun piece group given => ?_
      rw [reading_of_fits given.1]
      exact given.2
    case fails_iff =>
      intro failure
      rw [whole, plain.fails_iff failure]
      refine or_congr (Reaches.congr (fun _ _ => Iff.rfl) fun piece member => ?_)
        (and_congr_right fun _ => Reaches.congr (fun _ _ => Iff.rfl) fun piece member => ?_)
      · exact and_congr_right fun undecoded =>
          by rw [unbuilt piece member fun builds => undecoded builds.decodes]
      · exact and_congr_right fun failed => by rw [unbuilt piece member failed]

/-- Reading works piece by piece exactly when, provided that every piece is built, the remarks on the whole and on
each piece can be made. A remark that cannot be made is the only other way in which reading fails. -/
theorem reading_joinedPieces (desk : Desk State)
    (valid : ∀ piece ∈ (Sign.plus, first) :: later, IsPiece piece.2) :
    (ReadsPiecewise (reading desk) first later ↔
      ((∀ piece ∈ (Sign.plus, first) :: later, Builds piece.2) →
        RemarkFits desk.journal (joinedPieces first later) ∧
          ∀ piece ∈ (Sign.plus, first) :: later, RemarkFits desk.journal piece.2)) ∧
      (¬ RemarkFits desk.journal (joinedPieces first later) →
        reading desk (joinedPieces first later) = .error .numberTooLong) :=
  ⟨readsPiecewise_reading_iff desk valid, reading_of_not_remarkFits⟩

/-- A piece that cannot be taken apart, behind one whose dice are all dropped. -/
theorem reading_joinedPieces_undecoded_last :
    let desk : Desk Unit := { source := () }
    let first := Text.of "2d6dl2"
    let later := [(Sign.minus, Text.of "4"), (Sign.plus, Text.of "7x")]
    (∀ piece ∈ (Sign.plus, first) :: later, IsPiece piece.2) ∧ ReadsPiecewise (reading desk) first later ∧
      ¬ Builds first ∧ reading desk (joinedPieces first later) = reading desk (Text.of "7x") := by
  intro desk first later
  have valid : ∀ piece ∈ (Sign.plus, first) :: later, IsPiece piece.2 := by decide
  have quiet : ∀ expression, RemarkFits desk.journal expression := fun _ _ _ kept => by cases kept
  refine ⟨valid, (reading_joinedPieces desk valid).1.mpr fun _ => ⟨quiet _, fun piece _ => quiet piece.2⟩, ?_, ?_⟩
  · rintro ⟨group, made⟩
    have failed : (groupOfPiece first).isOk = false := by decide +kernel
    rw [made] at failed
    cases failed
  · rw [reading_of_fits (quiet _), reading_of_fits (quiet _)]
    decide +kernel

/-- The remark on a sum that is longer than its parts. -/
theorem not_readsPiecewise_nines_and_one :
    let desk : Desk Unit := { source := (), journal := { threshold := .debug } }
    let nines : Text := List.replicate Numeral.digitLimit '9'
    ¬ ReadsPiecewise (reading desk) nines [(.plus, ['1'])] ∧
      (∃ bag, reading desk nines = .ok bag) ∧ (∃ bag, reading desk ['1'] = .ok bag) ∧
        reading desk (joinedPieces nines [(.plus, ['1'])]) = .error .numberTooLong := by
  intro desk nines
  let long : Group := .bonus { value := 10 ^ Numeral.digitLimit - 1, sign := .plus }
  let short : Group := .bonus { value := 1, sign := .plus }
  have longPiece : IsPiece nines := by
    refine ⟨by decide, fun char member => ?_, fun char member => ?_⟩
    · obtain rfl := List.eq_of_mem_replicate member
      decide
    · obtain rfl := List.eq_of_mem_replicate member
      decide
  have shortPiece : IsPiece ['1'] := by decide
  have valid : ∀ piece ∈ [(Sign.plus, nines), (.plus, ['1'])], IsPiece piece.2 := by
    simp only [List.forall_mem_cons, List.not_mem_nil, false_imp_iff, implies_true, and_true]
    exact ⟨longPiece, shortPiece⟩
  have longMade : groupOfPiece nines = .ok long := by decide +kernel
  have shortMade : groupOfPiece ['1'] = .ok short := by decide +kernel
  have longRead : ofText nines = .ok ⟨[long]⟩ := (ofText_piece_eq_ok_iff longPiece).mpr ⟨long, longMade, rfl⟩
  have shortRead : ofText ['1'] = .ok ⟨[short]⟩ := (ofText_piece_eq_ok_iff shortPiece).mpr ⟨short, shortMade, rfl⟩
  have bothRead : ofText (joinedPieces nines [(.plus, ['1'])]) = .ok ⟨[long, short]⟩ :=
    (ofText_joinedPieces_eq_ok_iff valid).mpr
      (.cons ⟨long, longMade, rfl⟩ (.cons ⟨short, shortMade, rfl⟩ .nil))
  have longFits : RemarkFits desk.journal nines :=
    (remarkFits_iff longRead).mpr (takes_parsedRemark_iff.mpr fun _ => by decide +kernel)
  have shortFits : RemarkFits desk.journal ['1'] :=
    (remarkFits_iff shortRead).mpr (takes_parsedRemark_iff.mpr fun _ => by decide +kernel)
  have bothUnfit : ¬ RemarkFits desk.journal (joinedPieces nines [(.plus, ['1'])]) := by
    rw [remarkFits_iff bothRead, takes_parsedRemark_iff]
    decide +kernel
  have built : ∀ piece ∈ [(Sign.plus, nines), (.plus, ['1'])], Builds piece.2 := by
    simp only [List.forall_mem_cons, List.not_mem_nil, false_imp_iff, implies_true, and_true]
    exact ⟨⟨long, longMade⟩, ⟨short, shortMade⟩⟩
  refine ⟨fun piecewise => bothUnfit ((readsPiecewise_reading_iff desk valid).mp piecewise built).1,
    ⟨_, reading_eq_ok_iff.mpr ⟨longRead, longFits⟩⟩, ⟨_, reading_eq_ok_iff.mpr ⟨shortRead, shortFits⟩⟩,
    reading_of_not_remarkFits bothUnfit⟩

end Remarks
end Bag
end DiceNotation
