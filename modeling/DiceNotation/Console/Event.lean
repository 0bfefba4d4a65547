import DiceNotation.Text.Basic

/-!
# Console events

What a session hands to its console: lines with markup, prompts, a panel of styled text, and tables.
-/

set_option autoImplicit false

namespace DiceNotation.Console

/-- A style from one character position up to another. -/
structure StyledSpan where
  start : Nat
  stop : Nat
  style : Text
  deriving DecidableEq, Repr

/-- How a column of a table looks. -/
structure Column where
  header : Text
  rightAligned : Bool := false
  style : Text := []
  deriving DecidableEq, Repr

/-- A table with a title; the border is a style. -/
structure Table where
  title : Text
  border : Text
  columns : List Column
  rows : List (List Text)
  deriving DecidableEq, Repr

/-- Something for the console to show. -/
inductive Event where
  | print (markup : Text)
  | prompt (markup : Text)
  | panel (text : Text) (spans : List StyledSpan) (border : Text)
  | table (table : Table)
  deriving DecidableEq, Repr

end DiceNotation.Console
