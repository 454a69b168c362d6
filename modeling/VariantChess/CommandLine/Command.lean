import VariantChess.CommandLine.Arguments
import VariantChess.Game.Hooks
import VariantChess.Layout.Markup
import VariantChess.Layout.Table
import VariantChess.Ruleset.File
import VariantChess.Settings
import VariantChess.Text.Integer

/-!
# Commands

What can be asked about a ruleset: its board and its pieces, the moves of a side, the number of lines
of play, and whether a side can play. A request names the ruleset, or leaves it to the settings, and
may put another board in the place of the starting one.
-/

namespace VariantChess.CommandLine

/-- The columns of a page. -/
def pageWidth : Nat := 80

inductive Command where
  | show
  | moves
  | perft
  | status
deriving DecidableEq, Repr

namespace Command

def named? (name : String) : Option Command :=
  match name with
  | "show" => some .show
  | "moves" => some .moves
  | "perft" => some .perft
  | "status" => some .status
  | _ => none

/-- The options of the command. -/
def switches : Command → List Switch
  | .show => [{ name := "--board" }]
  | .moves =>
    [{ name := "--board" }, { name := "--color" }, { name := "--pseudo", takesValue := false }]
  | .perft => [{ name := "--board" }, { name := "--color" }, { name := "--depth" }]
  | .status => [{ name := "--board" }, { name := "--color" }]

end Command

/-- A command with its arguments. -/
structure Request where
  command : Command
  /-- The ruleset; without one, that of the settings. -/
  ruleset : Option String := none
  /-- The board notation in the place of the starting board. -/
  board : Option String := none
  color : Color := .white
  /-- Whether the moves are listed without regard to royal pieces. -/
  pseudoLegal : Bool := false
  depth : Option Nat := none
deriving DecidableEq, Repr

namespace Request

/-- The color of an option's value, which is its exact name; white without the option. -/
def color? : Option String → Option Color
  | none => some .white
  | some name => Color.all.find? fun c => c.name == name

/-- The depth of an option's value, which is an integer that is not negative. -/
def depth? : Option String → Option (Option Nat)
  | none => some none
  | some text =>
    match Text.integer? text.toList with
    | some (.ofNat n) => some (some n)
    | _ => none

/-- The request that the arguments of a command make, if they are well formed. -/
def read? (command : Command) (args : List String) : Option Request := do
  let a ← Arguments.read? command.switches true args
  let color ← color? (a.value? "--color")
  let depth ← depth? (a.value? "--depth")
  let ruleset ← match a.positional with
    | [] => some none
    | [ref] => some (some ref)
    | _ => none
  return {
    command, ruleset, color, depth
    board := a.value? "--board"
    pseudoLegal := a.has "--pseudo" }

variable (r : Request)

/-- The reference to the ruleset. -/
def reference (settings : Settings) : String :=
  (r.ruleset.filter (· ≠ "")).getD settings.ruleset

/-- The ruleset and the board that the request is about. -/
def position (files : Files) (settings : Settings) : Report (Ruleset × Board) := do
  let ruleset ← Ruleset.resolve files (r.reference settings)
  match r.board with
  | none => return (ruleset, ruleset.board)
  | some text =>
    let known := some ruleset.catalogue.symbols
    return (ruleset, ← Report.of ((Board.read text known).mapError Error.ofBoard))

end Request

/-! ### Answers -/

/-- A text in no style. -/
def unstyled (text : String) : Layout.Styled := .ofText text.toList

/-- The text in lines as wide as a page. -/
def paragraph (text : String) : List String :=
  (Layout.wrap .fold pageWidth (unstyled text)).map fun line =>
    String.ofList (Layout.clip .fold pageWidth line).text

/-- The content of a cell. -/
def cellText : Cell → Layout.Styled
  | none => unstyled "·"
  | some piece => .ofText piece.text

/-- The board with numbers for its rows and columns. -/
def boardTable (b : Board) : Layout.Table where
  ruled := false
  columns :=
    { header := unstyled "", alignment := .right
      cells := (List.range b.height).map fun y => unstyled (toString y) } ::
      (List.range b.width).map fun x =>
        { header := unstyled (toString x), alignment := .center
          cells := b.rows.map fun row => cellText (row.getD x none) }

/-- Six significant digits, with an exponent from a million on. -/
def valueText (value : Double) : String := value.textWith ⟨6, false⟩ (Double.significant 6)

/-- A column with texts in no style. -/
def plainColumn (header : String) (cells : List String) : Layout.Column where
  header := unstyled header
  cells := cells.map unstyled

/-- The pieces of a catalogue, whose names may hold style tags. -/
def pieceTable (c : Catalogue) : Except Layout.TagFault Layout.Table := do
  let kinds := c.sorted.map (·.2)
  let names ← kinds.mapM fun kind => Layout.seen kind.name
  return {
    title := some (unstyled "Pieces")
    columns := [
      plainColumn "Symbol" (c.sorted.map (·.1)),
      { header := unstyled "Name", cells := names },
      plainColumn "Value" (kinds.map fun kind => valueText kind.value),
      plainColumn "Royal" (kinds.map fun kind => if kind.royal then "yes" else "")] }

/-- The lines of a table. -/
def tableLines (t : Layout.Table) : Except Error (List String) :=
  match t.draw pageWidth with
  | .ok lines => .ok (lines.map String.ofList)
  | .error _ => .error (.tag .badStyle)

/-- The board and the pieces. -/
def describe (ruleset : Ruleset) (board : Board) : Except Error (List String) := do
  let boardLines ← tableLines (boardTable board)
  let pieces ← (pieceTable ruleset.catalogue).mapError Error.tag
  return paragraph ruleset.name ++ boardLines ++ (← tableLines pieces)

/-- The moves of a side, and how many there are. -/
def listMoves (ruleset : Ruleset) (board : Board) (color : Color) (pseudo : Bool) :
    Report (List String) := do
  let find := if pseudo then pseudoLegalMoves else legalMoves
  let moves ← find ruleset.catalogue board color (some Hooks.standard.ask)
  let kind := if pseudo then "pseudo-legal" else "legal"
  return moves.map toString ++ [s!"{moves.length} {kind} moves for {color}"]

/-- Whether a side can play. -/
def describeState (ruleset : Ruleset) (board : Board) (color : Color) : Report String := do
  match ← terminalState ruleset.catalogue board color (some Hooks.standard.ask) with
  | .checkmated => return s!"{color} is checkmated"
  | .stalemated => return s!"{color} is stalemated"
  | .playable =>
    if ← Report.of (isInCheck ruleset.catalogue board color) then return s!"{color} is in check"
    else return s!"{color} to move"

/-- The lines that answer a request; nothing if the side to count for does not play. -/
def Request.answer (r : Request) (files : Files) (settings : Settings) :
    Report (Option (List String)) := do
  let (ruleset, board) ← r.position files settings
  match r.command with
  | .show => return some (← Report.of (describe ruleset board))
  | .moves =>
    return some (← listMoves ruleset board r.color (r.pseudoLegal || settings.showPseudoLegal))
  | .perft =>
    if ruleset.colors.contains r.color then
      let depth := r.depth.getD settings.perftDepth
      let n ← Report.of (perft ruleset.catalogue ruleset.colors depth board r.color)
      return some (paragraph s!"perft({depth}) = {n}")
    else return none
  | .status => return some [← describeState ruleset board r.color]

end VariantChess.CommandLine
