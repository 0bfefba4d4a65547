import DiceNotation.Proofs.Document.Lexemes

/-!
# Documents that are written and read back

The lexemes of a document are put together to that document again. So a document is read back from its text, if it has
no decimal places and no number in it is too long to be written.
-/

set_option autoImplicit false

namespace DiceNotation.Document

open Text (StartsOutside)

/-! ## The lexemes of a document -/

mutual

/-- The lexemes of a document in their order. -/
def lexemes : Document → List Lexeme
  | null => [.null]
  | truth value => [.truth value]
  | number value => [.number value]
  | real value => [.real value]
  | text value => [.text value]
  | list items => .leftBracket :: (itemLexemes items ++ [.rightBracket])
  | record fields => .leftBrace :: (fieldLexemes fields ++ [.rightBrace])

def itemLexemes : List Document → List Lexeme
  | [] => []
  | [item] => item.lexemes
  | item :: later => item.lexemes ++ .comma :: itemLexemes later

def fieldLexemes : List (String × Document) → List Lexeme
  | [] => []
  | [(name, value)] => .text name :: .colon :: value.lexemes
  | (name, value) :: later => .text name :: .colon :: (value.lexemes ++ .comma :: fieldLexemes later)

end

/-- All numbers in the document are whole and can be written. -/
inductive Exact : Document → Prop where
  | null : Exact null
  | truth (value : Bool) : Exact (truth value)
  | number {value : Int} : Numeral.fits value = true → Exact (number value)
  | text (value : String) : Exact (text value)
  | list {items : List Document} : (∀ item ∈ items, Exact item) → Exact (list items)
  | record {fields : List (String × Document)} : (∀ field ∈ fields, Exact field.2) → Exact (record fields)

variable {document : Document} {items : List Document} {fields : List (String × Document)}

@[simp] theorem exact_truth (value : Bool) : Exact (truth value) := .truth value

@[simp] theorem exact_text (value : String) : Exact (text value) := .text value

@[simp] theorem exact_number_iff {value : Int} : Exact (number value) ↔ Numeral.fits value = true := by
  refine ⟨fun whole => ?_, .number⟩
  cases whole
  assumption

@[simp] theorem exact_list_iff : Exact (list items) ↔ ∀ item ∈ items, Exact item := by
  refine ⟨fun whole => ?_, .list⟩
  cases whole
  assumption

@[simp] theorem exact_record_iff : Exact (record fields) ↔ ∀ field ∈ fields, Exact field.2 := by
  refine ⟨fun whole => ?_, .record⟩
  cases whole
  assumption

/-! ## From texts to lexemes -/

theorem lexes_mark {char : Char} {lexeme : Lexeme} (visible : isSpace char = false)
    (read : ∀ rest, lexeme? (char :: rest) = some (lexeme, rest)) : Lexes [char] [lexeme] :=
  lexes_nil.cons visible read

theorem lexes_writeItems (each : ∀ item ∈ items, Lexes item.write item.lexemes) :
    Lexes (writeItems items) (itemLexemes items) := by
  induction items with
  | nil => exact lexes_nil
  | cons item later ih =>
      have own := each item List.mem_cons_self
      have others := ih fun other member => each other (List.mem_cons_of_mem item member)
      cases later with
      | nil => exact own
      | cons next later => exact own.append (others.cons rfl fun _ => rfl) rfl

theorem lexes_writeFields (each : ∀ field ∈ fields, Lexes field.2.write field.2.lexemes) :
    Lexes (writeFields fields) (fieldLexemes fields) := by
  induction fields with
  | nil => exact lexes_nil
  | cons field later ih =>
      obtain ⟨name, value⟩ := field
      have own := each (name, value) List.mem_cons_self
      have others := ih fun other member => each other (List.mem_cons_of_mem (name, value) member)
      have named : Lexes (quoted name) [.text name] := lexes_of_lexeme rfl fun rest _ => lexeme?_quoted name
      cases later with
      | nil => exact named.append (own.cons rfl fun _ => rfl) rfl
      | cons next later =>
          exact (named.append (own.cons rfl fun _ => rfl) rfl).append (others.cons rfl fun _ => rfl) rfl

theorem lexes_number {value : Int} (short : Numeral.fits value = true) :
    Lexes (Numeral.write value) [.number value] := by
  have read := fun rest (ended : StartsOutside continuesNumber rest) => lexeme?_number short ended
  cases value with
  | ofNat number =>
      obtain ⟨char, text, spelled, digit⟩ := Numeral.exists_digits_eq number
      rw [Numeral.write, spelled] at read ⊢
      exact lexes_of_lexeme (isSpace_of_isDigit digit) read
  | negSucc number => exact lexes_of_lexeme rfl read

theorem Exact.lexes (whole : document.Exact) : Lexes document.write document.lexemes := by
  induction whole with
  | null => exact lexes_of_lexeme rfl fun _ _ => rfl
  | truth value => cases value <;> exact lexes_of_lexeme rfl fun _ _ => rfl
  | number short => exact lexes_number short
  | text value => exact lexes_of_lexeme rfl fun rest _ => lexeme?_quoted value
  | list _ ih => exact ((lexes_writeItems ih).append (lexes_mark rfl fun _ => rfl) rfl).cons rfl fun _ => rfl
  | record _ ih => exact ((lexes_writeFields ih).append (lexes_mark rfl fun _ => rfl) rfl).cons rfl fun _ => rfl

/-! ## From lexemes to documents -/

/-- A document does not begin with a bracket that closes a list. -/
theorem exists_lexemes_eq (document : Document) :
    ∃ head tail, document.lexemes = head :: tail ∧ head ≠ .rightBracket := by
  cases document <;> exact ⟨_, _, rfl, by simp⟩

/-- The lexemes at the beginning are put together to the document. -/
def Parses (document : Document) : Prop :=
  ∀ fuel rest, document.lexemes.length ≤ fuel →
    valueFrom? fuel (document.lexemes ++ rest) = some (document, rest)

theorem itemsFrom?_itemLexemes (each : ∀ item ∈ items, Parses item) (nonempty : items ≠ []) {fuel : Nat}
    (rest : List Lexeme) (before : List Document) (enough : (itemLexemes items).length < fuel) :
    itemsFrom? fuel (itemLexemes items ++ .rightBracket :: rest) before = some (before.reverse ++ items, rest) := by
  induction items generalizing fuel before with
  | nil => exact absurd rfl nonempty
  | cons item later ih =>
      have own := each item List.mem_cons_self
      have others := ih fun other member => each other (List.mem_cons_of_mem item member)
      obtain _ | fuel := fuel
      · cases enough
      cases later with
      | nil =>
          have parsed := own fuel (.rightBracket :: rest) (Nat.le_of_lt_succ enough)
          rw [itemLexemes, itemsFrom?, parsed]
          simp
      | cons next later =>
          have spelled : itemLexemes (item :: next :: later) =
            item.lexemes ++ .comma :: itemLexemes (next :: later) := rfl
          rw [spelled, List.length_append, List.length_cons] at enough
          have parsed := own fuel (.comma :: (itemLexemes (next :: later) ++ .rightBracket :: rest)) (by omega)
          rw [spelled, List.append_assoc, List.cons_append, itemsFrom?, parsed]
          have remaining := others (by simp) (item :: before) (by omega : _ < fuel)
          simpa using remaining

theorem fieldsFrom?_fieldLexemes (each : ∀ field ∈ fields, Parses field.2) (nonempty : fields ≠ []) {fuel : Nat}
    (rest : List Lexeme) (before : List (String × Document)) (enough : (fieldLexemes fields).length < fuel) :
    fieldsFrom? fuel (fieldLexemes fields ++ .rightBrace :: rest) before = some (before.reverse ++ fields, rest) := by
  induction fields generalizing fuel before with
  | nil => exact absurd rfl nonempty
  | cons field later ih =>
      obtain ⟨name, value⟩ := field
      have own : Parses value := each (name, value) List.mem_cons_self
      have others := ih fun other member => each other (List.mem_cons_of_mem (name, value) member)
      obtain _ | fuel := fuel
      · cases enough
      cases later with
      | nil =>
          have spelled : fieldLexemes [(name, value)] = .text name :: .colon :: value.lexemes := rfl
          rw [spelled, List.length_cons, List.length_cons] at enough
          have parsed := own fuel (.rightBrace :: rest) (by omega)
          rw [spelled, List.cons_append, List.cons_append, fieldsFrom?]
          simp [parsed]
      | cons next later =>
          have spelled : fieldLexemes ((name, value) :: next :: later) =
            .text name :: .colon :: (value.lexemes ++ .comma :: fieldLexemes (next :: later)) := rfl
          rw [spelled, List.length_cons, List.length_cons, List.length_append, List.length_cons] at enough
          have parsed := own fuel (.comma :: (fieldLexemes (next :: later) ++ .rightBrace :: rest)) (by omega)
          have remaining := others (by simp) ((name, value) :: before) (by omega : _ < fuel)
          rw [spelled, List.cons_append, List.cons_append, List.append_assoc, List.cons_append, fieldsFrom?]
          simpa [parsed] using remaining

theorem parses_list (each : ∀ item ∈ items, Parses item) : Parses (list items) := by
  intro fuel rest enough
  have spelled : (list items).lexemes = .leftBracket :: (itemLexemes items ++ [.rightBracket]) := rfl
  rw [spelled, List.length_cons, List.length_append, List.length_singleton] at enough
  obtain _ | fuel := fuel
  · cases enough
  rw [spelled, List.cons_append, List.append_assoc, List.singleton_append]
  cases items with
  | nil => rfl
  | cons item later =>
      have parsed := itemsFrom?_itemLexemes each (by simp) rest [] (by omega : _ < fuel)
      -- A list with items is not taken for the empty one, so the branch for the closing bracket is passed over.
      have opened : ∀ others, itemLexemes (item :: later) ++ .rightBracket :: rest ≠ .rightBracket :: others := by
        obtain ⟨head, tail, begins, other⟩ := exists_lexemes_eq item
        intro others same
        cases later <;> simp [itemLexemes, begins, other] at same
      rw [valueFrom?.eq_def]
      simp only
      rw [parsed]
      rfl

theorem parses_record (each : ∀ field ∈ fields, Parses field.2) : Parses (record fields) := by
  intro fuel rest enough
  have spelled : (record fields).lexemes = .leftBrace :: (fieldLexemes fields ++ [.rightBrace]) := rfl
  rw [spelled, List.length_cons, List.length_append, List.length_singleton] at enough
  obtain _ | fuel := fuel
  · cases enough
  rw [spelled, List.cons_append, List.append_assoc, List.singleton_append]
  cases fields with
  | nil => rfl
  | cons field later =>
      have parsed := fieldsFrom?_fieldLexemes each (by simp) rest [] (by omega : _ < fuel)
      have opened : ∀ others, fieldLexemes (field :: later) ++ .rightBrace :: rest ≠ .rightBrace :: others := by
        intro others same
        cases later <;> simp [fieldLexemes] at same
      rw [valueFrom?.eq_def]
      simp only
      rw [parsed]
      rfl

theorem Exact.parses (whole : document.Exact) : Parses document := by
  induction whole with
  | list _ ih => exact parses_list ih
  | record _ ih => exact parses_record ih
  | null | truth | number | text =>
      intro fuel rest enough
      obtain _ | fuel := fuel
      · cases enough
      rfl

/-- A document with whole numbers that are not too long is read back from its text. -/
theorem read?_write (whole : document.Exact) : read? document.write = some document := by
  have parsed := whole.parses (document.lexemes.length + 1) [] (Nat.le_succ _)
  rw [List.append_nil] at parsed
  rw [read?, whole.lexes.lexemes?_eq]
  simp [parsed]

end DiceNotation.Document
