import VariantChess.Sorted
import VariantChess.Fallible
import VariantChess.Square
import VariantChess.Text.Character
import VariantChess.Text.Digit
import VariantChess.Text.Letter
import VariantChess.Text.Case
import VariantChess.Text.Printable
import VariantChess.Text.Quoted
import VariantChess.Text.Integer
import VariantChess.Text.Width
import VariantChess.Text.Identifier
import VariantChess.Text.EmojiNames
import VariantChess.Text.Emoji
import VariantChess.Text.Base64
import VariantChess.Color
import VariantChess.Move
import VariantChess.Decimal.Double
import VariantChess.Decimal.Text
import VariantChess.Decimal.Numeral
import VariantChess.Calendar
import VariantChess.Datum
import VariantChess.Scatter
import VariantChess.Path
import VariantChess.Files
import VariantChess.Movement.Distance
import VariantChess.Movement.Heading
import VariantChess.Movement.Rule
import VariantChess.Movement.Notation
import VariantChess.Board.Basic
import VariantChess.Board.Notation
import VariantChess.Layout.Styled
import VariantChess.Layout.Style
import VariantChess.Layout.Wrap
import VariantChess.Layout.Table
import VariantChess.Layout.Literal.Fault
import VariantChess.Layout.Literal.Escape
import VariantChess.Layout.Literal.Expression
import VariantChess.Layout.Literal.Token
import VariantChess.Layout.Literal.Parse
import VariantChess.Layout.Literal.Reading
import VariantChess.Layout.Literal.Template
import VariantChess.Layout.Literal.Lambda
import VariantChess.Layout.Literal.Grammar
import VariantChess.Layout.Literal.Value
import VariantChess.Layout.Handler
import VariantChess.Layout.Markup
import VariantChess.Yaml.Fault
import VariantChess.Error
import VariantChess.Journal
import VariantChess.Board.Desk
import VariantChess.Catalogue.Basic
import VariantChess.Catalogue.Presets
import VariantChess.Walk
import VariantChess.Targets
import VariantChess.PseudoLegal
import VariantChess.Attack
import VariantChess.Legal
import VariantChess.Perft
import VariantChess.Ruleset.Basic
import VariantChess.Ruleset.Description
import VariantChess.Ruleset.Bundled
import VariantChess.Game.Hooks
import VariantChess.Game.Session
import VariantChess.Yaml.Scalar
import VariantChess.Yaml.Cursor
import VariantChess.Yaml.Plain
import VariantChess.Yaml.Quoted
import VariantChess.Yaml.Block
import VariantChess.Yaml.Tag
import VariantChess.Yaml.Token
import VariantChess.Yaml.Node
import VariantChess.Yaml.Merge
import VariantChess.Yaml.Value
import VariantChess.Yaml.Document
import VariantChess.Ruleset.File
import VariantChess.Settings
import VariantChess.Logging
import VariantChess.CommandLine.Arguments
import VariantChess.CommandLine.Command
import VariantChess.CommandLine.Run
import VariantChess.Main
import VariantChess.Proofs.Sorted
import VariantChess.Proofs.Fallible
import VariantChess.Proofs.Decimal
import VariantChess.Proofs.Datum
import VariantChess.Proofs.Text.Digit
import VariantChess.Proofs.Text.Letter
import VariantChess.Proofs.Text.Case
import VariantChess.Proofs.Text.Runs
import VariantChess.Proofs.Text.Shift
import VariantChess.Proofs.Text.Recasing
import VariantChess.Proofs.Movement.Grammar
import VariantChess.Proofs.Movement.Reading
import VariantChess.Proofs.Movement.Parts
import VariantChess.Proofs.Movement.Parsing
import VariantChess.Proofs.Movement.Unambiguous
import VariantChess.Proofs.Movement.Stuck
import VariantChess.Proofs.Movement.Compilation
import VariantChess.Proofs.Movement.Printing
import VariantChess.Proofs.Movement.Segments
import VariantChess.Proofs.Board.Cells
import VariantChess.Proofs.Board.Sharing
import VariantChess.Proofs.Board.Requests
import VariantChess.Proofs.Board.Reading
import VariantChess.Proofs.Board.Writing
import VariantChess.Proofs.Board.Rereading
import VariantChess.Proofs.Board.Marks
import VariantChess.Proofs.Board.Stuck
import VariantChess.Proofs.Board.Ascii
import VariantChess.Proofs.Refusal
import VariantChess.Proofs.Walk
import VariantChess.Proofs.Landing
import VariantChess.Proofs.Loop
import VariantChess.Proofs.Movement.Suited
import VariantChess.Proofs.Movement.Meaning
import VariantChess.Proofs.Movement.Ending
import VariantChess.Proofs.Movement.Limit
import VariantChess.Proofs.Movement.Change
import VariantChess.Proofs.Movement.Directions
import VariantChess.Proofs.Movement.Leaper
import VariantChess.Proofs.Movement.Lasting
import VariantChess.Proofs.Movement.Sight
import VariantChess.Proofs.Catalogue
import VariantChess.Proofs.Generation
import VariantChess.Proofs.Defects
import VariantChess.Proofs.Extension
import VariantChess.Proofs.Playable
import VariantChess.Proofs.Legality
import VariantChess.Proofs.Attackers
import VariantChess.Proofs.Replies
import VariantChess.Proofs.Perft
import VariantChess.Proofs.Alike
import VariantChess.Proofs.Reflection.Board
import VariantChess.Proofs.Reflection.Rules
import VariantChess.Proofs.Reflection.Play
import VariantChess.Proofs.Ruleset.Described
import VariantChess.Proofs.Ruleset.Refused
import VariantChess.Proofs.Settings
import VariantChess.Proofs.Game.Course
import VariantChess.Proofs.Game.Chronicle
import VariantChess.Proofs.Game.Regular
import VariantChess.Proofs.Game.Reached
import VariantChess.Proofs.Game.Steps
import VariantChess.Proofs.Game.Nesting
import VariantChess.Proofs.Game.Settlement
import VariantChess.Proofs.Game.Refusals
import VariantChess.Proofs.Game.Royals
import VariantChess.Proofs.Game.Verdicts
import VariantChess.Proofs.Game.Farewells
import VariantChess.Proofs.Game.Plays
import VariantChess.Proofs.Game.Trail
import VariantChess.Proofs.Game.Recast
import VariantChess.Proofs.Game.Mishaps
import VariantChess.Proofs.Game.Promotion
