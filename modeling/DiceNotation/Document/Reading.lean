import DiceNotation.Document.Basic

/-!
# Reading documents

A text is first cut into lexemes; the lexemes are then put together. Exponents of numbers are not read, and
neither are numbers with too many digits before the point.
-/

set_option autoImplicit false

namespace DiceNotation.Document

/-- The parts of the text of a document. -/
inductive Lexeme where
  | leftBracket
  | rightBracket
  | leftBrace
  | rightBrace
  | comma
  | colon
  | null
  | truth (value : Bool)
  | number (value : Int)
  | real (value : Binary64)
  | text (value : String)
  deriving DecidableEq, Repr

/-! ## Lexemes -/

def hexValue? (char : Char) : Option Nat :=
  if '0' ≤ char ∧ char ≤ '9' then some (char.toNat - '0'.toNat)
  else if 'a' ≤ char ∧ char ≤ 'f' then some (char.toNat - 'a'.toNat + 10)
  else if 'A' ≤ char ∧ char ≤ 'F' then some (char.toNat - 'A'.toNat + 10)
  else none

def hexCode? (first second third fourth : Char) : Option Nat := do
  let a ← hexValue? first
  let b ← hexValue? second
  let c ← hexValue? third
  let d ← hexValue? fourth
  return ((a * 16 + b) * 16 + c) * 16 + d

/-- The character that a backslash and a letter stand for. -/
def shortEscape? : Char → Option Char
  | '"' => some '"'
  | '\\' => some '\\'
  | '/' => some '/'
  | 'b' => some '\x08'
  | 'f' => some '\x0c'
  | 'n' => some '\n'
  | 'r' => some '\r'
  | 't' => some '\t'
  | _ => none

/-- The rest of a quoted text and what follows it. The characters before are given last first. Two escaped
halves of one code point above the basic plane are put together. -/
def quotedRest? : Text → (before : Text) → Option (Text × Text)
  | [], _ => none
  | '"' :: rest, before => some (before.reverse, rest)
  | '\\' :: 'u' :: a :: b :: c :: d :: '\\' :: 'u' :: e :: f :: g :: h :: rest, before => do
      let code ← hexCode? a b c d
      let second ← hexCode? e f g h
      if 0xd800 ≤ code ∧ code < 0xdc00 ∧ 0xdc00 ≤ second ∧ second < 0xe000 then
        quotedRest? rest
          (Char.ofNat (0x10000 + (code - 0xd800) * 0x400 + (second - 0xdc00)) :: before)
      else
        quotedRest? ('\\' :: 'u' :: e :: f :: g :: h :: rest) (Char.ofNat code :: before)
  | '\\' :: 'u' :: a :: b :: c :: d :: rest, before => do
      let code ← hexCode? a b c d
      quotedRest? rest (Char.ofNat code :: before)
  | '\\' :: char :: rest, before => do
      let escaped ← shortEscape? char
      quotedRest? rest (escaped :: before)
  | char :: rest, before =>
      if char.toNat < 0x20 ∨ char = '\\' then none else quotedRest? rest (char :: before)
termination_by text => text.length

/-- A number whose sign was read, and what follows it. No zero may stand before another digit. -/
def unsignedNumber? (negative : Bool) (text : Text) : Option (Lexeme × Text) :=
  let whole := text.takeWhile Char.isDigit
  if whole.isEmpty ∨ (whole.head? = some '0' ∧ 1 < whole.length) ∨
      Numeral.digitLimit < whole.length then none
  else match text.dropWhile Char.isDigit with
    | '.' :: rest =>
        let places := rest.takeWhile Char.isDigit
        if places.isEmpty then none
        else
          let value := Binary64.ofDecimal negative (Numeral.value (whole ++ places)) places.length
          some (.real value, rest.dropWhile Char.isDigit)
    | rest =>
        let magnitude : Int := Numeral.value whole
        some (.number (if negative then -magnitude else magnitude), rest)

/-- The first lexeme of a text that begins with no blank, and what follows it. -/
def lexeme? : Text → Option (Lexeme × Text)
  | '[' :: rest => some (.leftBracket, rest)
  | ']' :: rest => some (.rightBracket, rest)
  | '\x7b' :: rest => some (.leftBrace, rest)
  | '\x7d' :: rest => some (.rightBrace, rest)
  | ',' :: rest => some (.comma, rest)
  | ':' :: rest => some (.colon, rest)
  | 'n' :: 'u' :: 'l' :: 'l' :: rest => some (.null, rest)
  | 't' :: 'r' :: 'u' :: 'e' :: rest => some (.truth true, rest)
  | 'f' :: 'a' :: 'l' :: 's' :: 'e' :: rest => some (.truth false, rest)
  | '"' :: rest => do
      let (value, rest) ← quotedRest? rest []
      return (.text (String.ofList value), rest)
  | '-' :: rest => unsignedNumber? true rest
  | unsigned => unsignedNumber? false unsigned

/-- Whether a character may stand between lexemes. -/
def isSpace (char : Char) : Bool :=
  char == ' ' || char == '\t' || char == '\n' || char == '\r'

/-- The lexemes of a text; the ones before are given last first. Each step uses up a character, so the
length of the text is fuel enough. -/
def lexemesFrom? : (fuel : Nat) → Text → (before : List Lexeme) → Option (List Lexeme)
  | _, [], before => some before.reverse
  | 0, _, _ => none
  | fuel + 1, char :: rest, before =>
      if isSpace char then lexemesFrom? fuel rest before
      else do
        let (lexeme, rest) ← lexeme? (char :: rest)
        lexemesFrom? fuel rest (lexeme :: before)

def lexemes? (text : Text) : Option (List Lexeme) :=
  lexemesFrom? text.length text []

/-! ## Documents -/

mutual

/-- The document at the beginning of a list of lexemes, and what follows it. -/
def valueFrom? : (fuel : Nat) → List Lexeme → Option (Document × List Lexeme)
  | 0, _ => none
  | fuel + 1, lexemes =>
      match lexemes with
      | .null :: rest => some (.null, rest)
      | .truth value :: rest => some (.truth value, rest)
      | .number value :: rest => some (.number value, rest)
      | .real value :: rest => some (.real value, rest)
      | .text value :: rest => some (.text value, rest)
      | .leftBracket :: .rightBracket :: rest => some (.list [], rest)
      | .leftBracket :: rest => do
          let (items, rest) ← itemsFrom? fuel rest []
          return (.list items, rest)
      | .leftBrace :: .rightBrace :: rest => some (.record [], rest)
      | .leftBrace :: rest => do
          let (fields, rest) ← fieldsFrom? fuel rest []
          return (.record fields, rest)
      | _ => none

/-- The items of a list up to its end; the ones before are given last first. -/
def itemsFrom? : (fuel : Nat) → List Lexeme → (before : List Document) →
    Option (List Document × List Lexeme)
  | 0, _, _ => none
  | fuel + 1, lexemes, before => do
      let (item, rest) ← valueFrom? fuel lexemes
      match rest with
      | .comma :: rest => itemsFrom? fuel rest (item :: before)
      | .rightBracket :: rest => return ((item :: before).reverse, rest)
      | _ => none

/-- The fields of a record up to its end; the ones before are given last first. -/
def fieldsFrom? : (fuel : Nat) → List Lexeme → (before : List (String × Document)) →
    Option (List (String × Document) × List Lexeme)
  | 0, _, _ => none
  | fuel + 1, lexemes, before =>
      match lexemes with
      | .text name :: .colon :: rest => do
          let (value, rest) ← valueFrom? fuel rest
          match rest with
          | .comma :: rest => fieldsFrom? fuel rest ((name, value) :: before)
          | .rightBrace :: rest => return (((name, value) :: before).reverse, rest)
          | _ => none
      | _ => none

end

def read? (text : Text) : Option Document := do
  let lexemes ← lexemes? text
  match valueFrom? (lexemes.length + 1) lexemes with
  | some (document, []) => some document
  | _ => none

end DiceNotation.Document
