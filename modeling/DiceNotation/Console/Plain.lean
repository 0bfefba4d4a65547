import DiceNotation.Console.Event

/-!
# Console events as plain text

How events look where no styles can be shown: markup tags are left out, and the columns of a table are padded
to one width.
-/

set_option autoImplicit false

namespace DiceNotation.Console

/-- Whether a character may stand in a markup tag. -/
def isTagCharacter (char : Char) : Bool :=
  char.isAlpha || char == ' ' || char == '/'

/-- A text without its markup tags, which are words in square brackets. -/
def withoutTags : Text → Text
  | [] => []
  | char :: rest =>
      if char = '[' ∧ (rest.head?.any isTagCharacter) ∧
          (rest.dropWhile isTagCharacter).head? = some ']' then
        withoutTags ((rest.dropWhile isTagCharacter).drop 1)
      else char :: withoutTags rest
termination_by text => text.length
decreasing_by
  · have shorter := (List.dropWhile_sublist isTagCharacter (l := rest)).length_le
    simp only [List.length_drop, List.length_cons]
    omega
  · simp

/-- A cell padded to a width on the side that its column leaves free. -/
def padded (width : Nat) (rightAligned : Bool) (cell : Text) : Text :=
  let padding := List.replicate (width - cell.length) ' '
  if rightAligned then padding ++ cell else cell ++ padding

/-- The lines of a table: its title, the headers, and the rows. -/
def Table.lines (table : Table) : List Text :=
  let rows := table.columns.map Column.header :: table.rows
  let widths := table.columns.mapIdx fun index _ =>
    (rows.map fun row => (row.getD index []).length).foldl max 0
  let line (row : List Text) : Text :=
    Text.joined (Text.of "  ") (((table.columns.zip widths).zip row).map
      fun ((column, width), cell) => padded width column.rightAligned cell)
  table.title :: rows.map line

/-- The text of an event. Every event but a prompt ends its line. -/
def Event.plain : Event → Text
  | .print markup => withoutTags markup ++ ['\n']
  | .prompt markup => withoutTags markup
  | .panel text _ _ => text ++ ['\n']
  | .table content => content.lines.flatMap (· ++ ['\n'])

end DiceNotation.Console
