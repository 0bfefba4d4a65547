import DiceNotation.Bag.Basic
import DiceNotation.Bag.Document
import DiceNotation.Bag.Expression
import DiceNotation.Bag.Ranged
import DiceNotation.CommandLine.Arguments
import DiceNotation.CommandLine.Basic
import DiceNotation.Console.Display
import DiceNotation.Console.Event
import DiceNotation.Console.Markup
import DiceNotation.Console.Plain
import DiceNotation.Die.Checked
import DiceNotation.Die.Clause
import DiceNotation.Die.Group
import DiceNotation.Die.Modified
import DiceNotation.Die.Sign
import DiceNotation.Die.WellFormed
import DiceNotation.Distribution
import DiceNotation.Document.Basic
import DiceNotation.Document.Checked
import DiceNotation.Document.Reading
import DiceNotation.Failure
import DiceNotation.Main
import DiceNotation.Notation.Cleaned
import DiceNotation.Notation.Error
import DiceNotation.Notation.Grammar
import DiceNotation.Notation.Modifier
import DiceNotation.Notation.Token
import DiceNotation.Number.Binary64
import DiceNotation.Number.Loose
import DiceNotation.Numeral
import DiceNotation.Phrase
import DiceNotation.Play.Desk
import DiceNotation.Play.Draws
import DiceNotation.Play.Generator
import DiceNotation.Play.Journal
import DiceNotation.Play.Report
import DiceNotation.Play.Rolling
import DiceNotation.Proofs.Bag.Bounded
import DiceNotation.Proofs.Bag.Explosions
import DiceNotation.Proofs.Bag.Pieces
import DiceNotation.Proofs.Bag.Range
import DiceNotation.Proofs.Bag.Reading
import DiceNotation.Proofs.Bag.Rejections
import DiceNotation.Proofs.Bag.Remarks
import DiceNotation.Proofs.Bag.Restoring
import DiceNotation.Proofs.Bag.Restyling
import DiceNotation.Proofs.Bag.RoundTrip
import DiceNotation.Proofs.CommandLine.Acceptance
import DiceNotation.Proofs.Console.Markup
import DiceNotation.Proofs.Die.Agreeing
import DiceNotation.Proofs.Die.Building
import DiceNotation.Proofs.Die.Calls
import DiceNotation.Proofs.Die.Modifying
import DiceNotation.Proofs.Die.Outsized
import DiceNotation.Proofs.Die.Routes
import DiceNotation.Proofs.Document.Lexemes
import DiceNotation.Proofs.Document.RoundTrip
import DiceNotation.Proofs.Notation.Alphabet
import DiceNotation.Proofs.Notation.Expressions
import DiceNotation.Proofs.Notation.Groups
import DiceNotation.Proofs.Notation.Modifiers
import DiceNotation.Proofs.Notation.Numerals
import DiceNotation.Proofs.Notation.Overlong
import DiceNotation.Proofs.Number.Rounding
import DiceNotation.Proofs.Outcome
import DiceNotation.Proofs.Play.Accounts
import DiceNotation.Proofs.Play.Chains
import DiceNotation.Proofs.Play.Clamping
import DiceNotation.Proofs.Play.Drops
import DiceNotation.Proofs.Play.Framing
import DiceNotation.Proofs.Play.Histogram
import DiceNotation.Proofs.Play.Reports
import DiceNotation.Proofs.Play.Rerolls
import DiceNotation.Proofs.Play.Rollable
import DiceNotation.Proofs.Play.Rolls
import DiceNotation.Proofs.Play.Safety
import DiceNotation.Proofs.Play.Steps
import DiceNotation.Proofs.Play.Survivors
import DiceNotation.Proofs.Play.Totals
import DiceNotation.Proofs.Play.Yields
import DiceNotation.Proofs.Session.Answers
import DiceNotation.Proofs.Session.Commands
import DiceNotation.Proofs.Session.Lines
import DiceNotation.Proofs.Session.Showing
import DiceNotation.Proofs.Text.Runs
import DiceNotation.Session.Commands
import DiceNotation.Session.Shell
import DiceNotation.Text.Basic
import DiceNotation.Text.Casing
import DiceNotation.Text.Class
import DiceNotation.Text.Letter
import DiceNotation.Text.Lowercase
import DiceNotation.Text.Printable
import DiceNotation.Text.Quoted
