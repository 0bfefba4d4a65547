import DiceNotation.Console.Event

/-!
# Markup

Markup is text with tags in brackets. A tag opens a style; with a slash in front it closes the last style of its name,
and with the slash alone the last style of any name. A console may refuse what it is handed, such as a tag that closes
a style which is not open. It takes ordinary texts, whose tags are styles of this library.
-/

set_option autoImplicit false

namespace DiceNotation

namespace Markup

/-! ## Tags -/

/-- The tags in a text, and what has been read of a tag that has not ended. `within` is what was read of a tag before
the text, the last character first; an opening bracket in a tag starts it anew. -/
def scan : (within : Option Text) → Text → List Text × Option Text
  | within, [] => ([], within)
  | none, char :: rest => scan (if char = '[' then some [] else none) rest
  | some tag, char :: rest =>
      if char = ']' then
        let (tags, left) := scan none rest
        (tag.reverse :: tags, left)
      else scan (some (if char = '[' then [] else char :: tag)) rest

def tags (text : Text) : List Text :=
  (scan none text).1

/-- Whether each closing tag closes a style that is open. The open styles are given last first. -/
def closesOpen : (opened tags : List Text) → Bool
  | _, [] => true
  | opened, ('/' :: name) :: rest =>
      if name.isEmpty then !opened.isEmpty && closesOpen opened.tail rest
      else opened.contains name && closesOpen (opened.erase name) rest
  | opened, name :: rest => closesOpen (name :: opened) rest

/-- No tag of the text closes a style that is not open. -/
def isMatched (text : Text) : Bool :=
  closesOpen [] (tags text)

/-! ## Ordinary texts -/

/-- The styles that the library uses. -/
def styles : List Text :=
  [Text.of "bold", Text.of "bold red", Text.of "bold cyan", Text.of "bold green", Text.of "cyan"]

/-- A printable ASCII character other than the backslash, which would take the meaning from a bracket after it. -/
def isCommon (char : Char) : Bool :=
  ' ' ≤ char && char ≤ '~' && char != '\\'

/-- Texts that mean the same to every console: common characters, the styles of the library in matching tags, and at
most one colon, so that no name of a picture stands between two. -/
def isOrdinary (text : Text) : Bool :=
  text.all isCommon && text.count ':' ≤ 1 &&
    (tags text).all (fun tag => styles.contains (if tag.head? = some '/' then tag.tail else tag)) && isMatched text

end Markup

namespace Console

/-- The texts of a table. -/
def Table.texts (table : Table) : List Text :=
  table.title :: table.columns.map Column.header ++ table.rows.flatten

/-- The texts of an event that are read as markup. -/
def Event.markups : Event → List Text
  | .print markup => [markup]
  | .prompt markup => [markup]
  | .panel _ _ _ => []
  | .table content => content.texts

/-- An event other than a panel, in ordinary texts only. -/
def Event.isOrdinary : Event → Bool
  | .panel _ _ _ => false
  | event => event.markups.all Markup.isOrdinary

end Console

/-- Where things are shown: the events that it takes. It refuses the others. -/
structure Console where
  takes : Console.Event → Bool
  takes_ordinary : ∀ event, event.isOrdinary = true → takes event = true

/-- A console that refuses nothing but tags that close a style which is not open. -/
def Console.matching : Console where
  takes event := event.markups.all Markup.isMatched
  takes_ordinary event ordinary := by
    cases event with
    | panel => rfl
    | print | prompt | table =>
        refine List.all_eq_true.mpr fun text member => ?_
        have own := List.all_eq_true.mp ordinary text member
        exact (Bool.and_eq_true_iff.mp own).2

example : Markup.isMatched (Text.of "[bold]2d6[/bold] [cyan]7[/]") = true := by decide
example : Markup.isMatched (Text.of "[bold red]Could not parse[/bold red] '2d6[/b]'") = false := by decide

end DiceNotation
