import DiceNotation.Distribution
import DiceNotation.Play.Report
import DiceNotation.Text.Quoted

/-!
# What the console shows

Each function hands one finding to the console. A table is put together completely before it is shown, so
nothing of it appears when one of its cells cannot be written.
-/

set_option autoImplicit false

namespace DiceNotation.Display

open Piece
open Console (Event Column StyledSpan)

variable {State : Type} (console : Console)

def print (markup : Phrase) : Play State Unit := do
  let text ← Play.lift markup.write
  Play.present console (.print text)

def prompt : Event :=
  .prompt (Text.of "[bold cyan]> [/bold cyan]")

def showPrompt : Play State Unit :=
  Play.present console prompt

/-- The control characters that styled text leaves out: bell, backspace, the two tabulations of the line
and the page, and carriage return. -/
def isDroppedControl (char : Char) : Bool :=
  [7, 8, 11, 12, 13].contains char.toNat

/-- What is shown when a shell begins. -/
def banner (defaultExpression : Text) : Event :=
  let heading := Text.of "Dice shell\n"
  let usage := (Text.of "Enter dice notation. Empty line rolls " ++ defaultExpression ++
    Text.of "; 'quit' leaves.").filter fun char => !isDroppedControl char
  let stop := heading.length + usage.length
  .panel (heading ++ usage)
    [⟨0, heading.length, Text.of "bold cyan"⟩, ⟨heading.length, stop, Text.of "dim"⟩] (Text.of "cyan")

def showBanner (defaultExpression : Text) : Play State Unit :=
  Play.present console (banner defaultExpression)

/-- What is shown for a rejected expression. The expression stands in it as it is, so its own brackets count as
tags. -/
def errorMarkup (expression : Text) (error : NotationError) : Phrase :=
  [say "[bold red]Could not parse[/bold red] ", .word (Text.quoted expression), say ": "] ++ error.message

def showError (expression : Text) (error : NotationError) : Play State Unit :=
  print console (errorMarkup expression error)

def rangeMarkup (bag : Bag) : Phrase :=
  [say "[bold]"] ++ bag.phrase ++
    [say "[/bold] range [cyan]", .number bag.range.low, say "[/cyan] to [cyan]",
      .number bag.range.high, say "[/cyan]"]

def showRange (bag : Bag) : Play State Unit :=
  print console (rangeMarkup bag)

/-- The row for one die group: the group, the rolls that count, and their total. -/
def dieRow (own : DieReport) : Except Failure (List Text) := do
  let group ← Phrase.write (.word [own.die.sign.symbol] :: own.die.phrase)
  let rolls ← Phrase.write
    (Phrase.joined [say ", "] (own.values.map fun value => [.number value]))
  let total ← Phrase.write [.number own.total]
  return [group, if rolls.isEmpty then ['-'] else rolls, total]

def bonusRow (bonus : BonusReport) : Except Failure (List Text) := do
  let values ← Phrase.write
    (Phrase.joined [say ", "] (bonus.values.map fun value => [.signed value]))
  let total ← Phrase.write [.number bonus.total]
  return [Text.of "bonus", values, total]

def rollTable (bag : Bag) (report : Report) : Except Failure Console.Table := do
  let title ← bag.write
  let dice ← report.dice.mapM dieRow
  let bonus ←
    if report.bonus.values.isEmpty then .ok [] else (bonusRow report.bonus).map fun row => [row]
  return {
    title
    border := Text.of "cyan"
    columns := [
      { header := Text.of "Group", style := Text.of "bold" },
      { header := Text.of "Kept rolls" },
      { header := Text.of "Subtotal", rightAligned := true }]
    rows := dice ++ bonus }

def totalMarkup (total : Int) : Phrase :=
  [say "  Total: [bold green]", .number total, say "[/bold green]"]

/-- A roll in one line, without its single rolls. -/
def rollMarkup (bag : Bag) (total : Int) : Phrase :=
  bag.phrase ++ [say " = [bold]", .number total, say "[/bold]"]

/-- Shows one roll, with its single rolls or without them. -/
def showRoll (bag : Bag) (report : Report) (showRolls : Bool) : Play State Unit :=
  if showRolls then do
    let table ← Play.lift (rollTable bag report)
    Play.present console (.table table)
    print console (totalMarkup report.total)
  else
    print console (rollMarkup bag report.total)

/-- A distribution as it is shown: counts, or percentages. -/
inductive Shares where
  | counts (counts : Counts)
  | percentages (percentages : Percentages)
  deriving DecidableEq, Repr

def Shares.header : Shares → Text
  | counts _ => Text.of "Count"
  | percentages _ => Text.of "Percentage"

def Shares.isEmpty : Shares → Bool
  | counts entries => entries.isEmpty
  | percentages entries => entries.isEmpty

/-- The rows of a distribution; percentages have three decimal places. -/
def Shares.rows : Shares → Except Failure (List (List Text))
  | counts entries => entries.mapM fun (total, count) => do
      let left ← Phrase.write [.number total]
      let right ← Phrase.write [.number count]
      return [left, right]
  | percentages entries => entries.mapM fun (total, share) => do
      let left ← Phrase.write [.number total]
      return [left, share.writeFixed 3]

def distributionTable (bag : Bag) (shares : Shares) (rolls : Int) :
    Except Failure Console.Table := do
  let title ← Phrase.write (bag.phrase ++ [say " over ", .number rolls, say " rolls"])
  let rows ← shares.rows
  return {
    title
    border := Text.of "magenta"
    columns := [
      { header := Text.of "Value", rightAligned := true, style := Text.of "bold" },
      { header := shares.header, rightAligned := true }]
    rows }

def meanMarkup (mean : Binary64) : Phrase :=
  [say "  Mean: [bold]", .word (mean.writeFixed 3), say "[/bold]"]

def showDistribution (bag : Bag) (counts : Counts) (shares : Shares) (rolls : Int) :
    Play State Unit := do
  let table ← Play.lift (distributionTable bag shares rolls)
  Play.present console (.table table)
  let mean ← Play.lift (Distribution.mean counts)
  print console (meanMarkup mean)

end DiceNotation.Display
