import DiceNotation.Number.Binary64
import DiceNotation.Text.Quoted

/-!
# Documents

The values of the JSON interchange format. Whole numbers are kept apart from numbers that are written with
decimal places, which are binary64 numbers. Documents are written in compact form: no blanks, fields in their order,
and every character as itself that need not be escaped.
-/

set_option autoImplicit false

namespace DiceNotation

/-- A JSON value. -/
inductive Document where
  | null
  | truth (value : Bool)
  | number (value : Int)
  | real (value : Binary64)
  | text (value : String)
  | list (items : List Document)
  | record (fields : List (String × Document))

namespace Document

/-- The value of a field; a repeated name keeps its last value. -/
def field? (fields : List (String × Document)) (name : String) : Option Document :=
  (fields.reverse.find? fun field => field.1 == name).map (·.2)

def ofNumbers (numbers : List Int) : Document :=
  list (numbers.map number)

/-! ## Writing -/

def escaped (char : Char) : Text :=
  if char = '"' then ['\\', '"']
  else if char = '\\' then ['\\', '\\']
  else if char = '\x08' then ['\\', 'b']
  else if char = '\x0c' then ['\\', 'f']
  else if char = '\n' then ['\\', 'n']
  else if char = '\r' then ['\\', 'r']
  else if char = '\t' then ['\\', 't']
  else if char.toNat < 0x20 then ['\\', 'u'] ++ Text.hexDigits 4 char.toNat
  else [char]

def quoted (text : String) : Text :=
  '"' :: text.toList.flatMap escaped ++ ['"']

/-- A binary64 number with all its decimal places; one that is not finite is left out. -/
def writeReal (number : Binary64) : Text :=
  if number.isFinite then number.writeExact else Text.of "null"

mutual

/-- A document in compact form. -/
def write : Document → Text
  | null => Text.of "null"
  | truth value => Text.of (if value then "true" else "false")
  | number value => Numeral.write value
  | real value => writeReal value
  | text value => quoted value
  | list items => '[' :: writeItems items ++ [']']
  | record fields => '\x7b' :: writeFields fields ++ ['\x7d']

def writeItems : List Document → Text
  | [] => []
  | [item] => write item
  | item :: later => write item ++ ',' :: writeItems later

def writeFields : List (String × Document) → Text
  | [] => []
  | [(name, value)] => quoted name ++ ':' :: write value
  | (name, value) :: later => quoted name ++ ':' :: write value ++ ',' :: writeFields later

end

end Document
end DiceNotation
