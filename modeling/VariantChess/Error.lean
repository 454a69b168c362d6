import VariantChess.Board.Notation
import VariantChess.Datum
import VariantChess.Files
import VariantChess.Layout.Markup
import VariantChess.Movement.Notation
import VariantChess.Yaml.Fault

/-!
# Errors

Everything that an operation can refuse and a script can raise, by cause. The library's own errors are
told apart from those of its surroundings (`Error.isOwn`), since a script's failure of the second kind
is wrapped before it is passed on. The wording of all of them is `Error.message`.

An error is put into words when it is raised, and an integer in it may have too many digits for that. Then
it is this failure that is met in its place, which is none of the library's own (`Error.isWritable`).
-/

namespace VariantChess

/-- A fault with the text that it was found in, if any, and its place. -/
def placedMessage (message text : String) (offset : Option Nat) : String :=
  if text.isEmpty then message
  else
    let place := (offset.map fun n => s!" at offset {n}").getD ""
    s!"{message}{place}: {Text.quote text}"

def Square.isWritable (s : Square) : Bool := Text.isWritable s.x && Text.isWritable s.y

def Move.isWritable (m : Move) : Bool := m.origin.isWritable && m.destination.isWritable

/-- A list of keys as messages show it. -/
def shownKeys (keys : List String) : String := (Datum.list (keys.map .text)).shown

/-- The occasions on which a piece calls a hook. -/
inductive Occasion where
  | extraMoves
  | afterMove
  | afterCapture
deriving DecidableEq, Repr

namespace Occasion

/-- How messages call the occasion. -/
def label : Occasion → String
  | extraMoves => "extra-moves"
  | afterMove => "after-move"
  | afterCapture => "after-capture"

/-- The key that names the hook in the description of a piece. -/
def key : Occasion → String
  | extraMoves => "extra_moves"
  | afterMove => "after_move"
  | afterCapture => "after_capture"

end Occasion

/-- Why a hook failed. -/
inductive HookFault where
  | unknown (occasion : Occasion) (id : String)
  | extraMovesFailed (id reason : String)
  | badDestination (id : String) (value : Datum)
  | failed (id reason : String)
  /-- A failure in the words of a script. -/
  | other (message : String)

def HookFault.message : HookFault → String
  | unknown occasion id => s!"Unknown {occasion.label} hook {Text.quote id}"
  | extraMovesFailed id reason => s!"Extension hook {Text.quote id} failed: {reason}"
  | badDestination id value =>
    s!"Extension hook {Text.quote id} returned invalid destination {value.shown}"
  | failed id reason => s!"Hook {Text.quote id} failed: {reason}"
  | other message => message

/-- Why a description is no ruleset. -/
inductive RulesetFault where
  | notMapping
  | unknownKeys (keys : List String)
  | noName
  | noPieces
  | badSymbol (value : Datum)
  | pieceNotMapping (symbol : String)
  | unknownPieceKeys (symbol : String) (keys : List String)
  | noMoves (symbol : String)
  | badValue (symbol : String)
  | badRoyal (symbol : String)
  | badHook (symbol : String) (occasion : Occasion)
  | badMovement (symbol : String) (fault : Movement.Fault) (text : String) (offset : Option Nat)
  | noBoard
  | badBoard (fault : Board.Fault) (text : String) (offset : Option Nat)
  | badColors
  | unknownColor (name : String)
  | noColors
  | repeatedColor
  | strangePiece (symbol : String)
  | notPlaying (color : Color)
  | unreadable (fault : FileFault) (path : String)
  | malformedFile
  | unknownName (name : String) (available : List String)
  /-- A refusal in the words of a script. -/
  | other (message : String)

def RulesetFault.message : RulesetFault → String
  | notMapping => "Ruleset must be a mapping"
  | unknownKeys keys => s!"Unknown ruleset keys: {shownKeys keys}"
  | noName => "Ruleset needs a non-empty 'name'"
  | noPieces => "Ruleset needs a non-empty 'pieces' mapping"
  | badSymbol value => s!"Piece symbol must be lowercase letters, got {value.shown}"
  | pieceNotMapping symbol => s!"Piece {Text.quote symbol} must be a mapping"
  | unknownPieceKeys symbol keys => s!"Unknown keys for piece {Text.quote symbol}: {shownKeys keys}"
  | noMoves symbol => s!"Piece {Text.quote symbol} needs a 'moves' notation string"
  | badValue symbol => s!"Piece {Text.quote symbol} has a non-numeric value"
  | badRoyal symbol => s!"Piece {Text.quote symbol}: 'royal' must be a boolean"
  | badHook symbol occasion =>
    s!"Piece {Text.quote symbol}: {Text.quote occasion.key} must be a hook id"
  | badMovement symbol fault text offset =>
    s!"Piece {Text.quote symbol}: {placedMessage fault.message text offset}"
  | noBoard => "Ruleset needs a 'board' string"
  | badBoard fault text offset => s!"Invalid board: {placedMessage fault.message text offset}"
  | badColors => "'colors' must be a list of color names"
  | unknownColor name => s!"Unknown color: {Text.quote name}"
  | noColors => "At least one color is required"
  | repeatedColor => "Duplicate color in turn order"
  | strangePiece symbol => s!"Board uses unknown piece {Text.quote symbol}"
  | notPlaying color => s!"Color {color} does not play in this ruleset"
  | unreadable fault path => s!"Cannot read ruleset: {fault.message path}"
  | malformedFile => "Invalid YAML"
  | unknownName name available =>
    s!"Unknown built-in ruleset {Text.quote name}; available: " ++ ", ".intercalate available
  | other message => message

/-- Why settings are refused. -/
inductive SettingsFault where
  | unknownKeys (keys : List String)
  | badLogFile
  | badDepth
  | badPseudo
  | badText (key : String)
  | notMapping (path : String)
  | unreadable (fault : FileFault) (path : String)
  | malformedFile

def SettingsFault.message : SettingsFault → String
  | unknownKeys keys => "Unknown settings: " ++ ", ".intercalate keys
  | badLogFile => "'log_file' must be a path string"
  | badDepth => "'perft_depth' must be a non-negative integer"
  | badPseudo => "'show_pseudo_legal' must be a boolean"
  | badText key => s!"{Text.quote key} must be a non-empty string"
  | notMapping path => s!"Settings file {path} must hold a mapping"
  | unreadable fault path => s!"Cannot read settings {path}: {fault.message path}"
  | malformedFile => "Invalid YAML"

inductive Error where
  /-- A text is no movement notation. -/
  | movement (fault : Movement.Fault) (text : String) (offset : Option Nat)
  /-- A text is no board notation. -/
  | board (fault : Board.Fault) (text : String) (offset : Option Nat)
  | move (fault : Move.Fault) (move : Option Move)
  /-- A hook failed; `moves` are those found before. -/
  | hook (fault : HookFault) (id : Option String) (origin : Option Square) (moves : List Move)
  | ruleset (fault : RulesetFault) (source : Option String)
  | settings (fault : SettingsFault)
  /-- A piece on the board has no entry in the catalogue. -/
  | unknownPiece (symbol : String)
  /-- An error of the library in the words of a script. -/
  | general (message : String)
  /-- A square off the board was read or written. -/
  | offBoard (refusal : OffBoard)
  /-- A square off the board cannot be attacked. -/
  | offTarget (square : Square)
  /-- The square of a piece that is asked about is empty. -/
  | noPiece (square : Square)
  | badSize (width height : Int)
  | unknownColor (name : String)
  | unknownLevel (name : String)
  | noLevel (value : Datum)
  /-- The hippogonal heading was used with a distance that is no leap. -/
  | noLeap
  /-- Digits that stand together are of no use as a number. -/
  | number (fault : Text.NumberFault)
  /-- An integer has too many digits to be written. -/
  | unwritten
  /-- An integer is too large for a piece's value. -/
  | tooLarge
  /-- The side to move is not in the turn order. -/
  | outOfTurn
  /-- A file holds a scalar that has no value. -/
  | scalar (fault : Yaml.Fault)
  /-- It could not be found out whether a file is there, or what was missing could not be made. -/
  | inaccessible (fault : FileFault) (path : String)
  /-- The name of a piece has a closing style tag that is out of place. -/
  | tag (fault : Layout.TagFault)
  /-- A text is no path. -/
  | noPath (fault : PathFault)
  /-- A script failed. -/
  | failure (message : String)
  /-- A script refused a value. -/
  | badArgument (message : String)

namespace Error

/-- Whether all that the wording of the error shows can be written. -/
def isWritable : Error → Bool
  | move _ (some m) => m.isWritable
  | hook (.badDestination _ value) .. => value.isWritable
  | offBoard r => r.square.isWritable && Text.isWritable r.width && Text.isWritable r.height
  | offTarget square => square.isWritable
  | badSize width height => Text.isWritable width && Text.isWritable height
  | noLevel value => value.isWritable
  | _ => true

/-- Whether the error is the library's own. -/
def isOwn (e : Error) : Bool :=
  e.isWritable && match e with
    | movement .. | board .. | move .. | hook .. | ruleset .. | settings .. | unknownPiece ..
    | general .. => true
    | _ => false

/-- The words for the error. -/
def wording : Error → String
  | movement fault text offset => placedMessage fault.message text offset
  | board fault text offset => placedMessage fault.message text offset
  | move fault none => fault.message
  | move fault (some m) => s!"{fault.message}: {m}"
  | hook fault .. => fault.message
  | ruleset fault none => fault.message
  | ruleset fault (some source) => s!"{source}: {fault.message}"
  | settings fault => fault.message
  | unknownPiece symbol => s!"Piece {Text.quote symbol} is not in the catalogue"
  | general message => message
  | offBoard r => s!"Cell {r.square} outside {r.width}x{r.height} board"
  | offTarget square => s!"Cell {square} outside the board"
  | noPiece square => s!"No piece on cell {square}"
  | badSize width height => s!"Invalid board size {width}x{height}"
  | unknownColor name => s!"Unknown color: {Text.quote name}"
  | unknownLevel name => s!"Unknown log level: {Text.quote name}"
  | noLevel value => s!"Level not an integer or a valid string: {value.shown}"
  | noLeap => "Hippogonal direction requires a hippogonal distance"
  | number fault => fault.message
  | unwritten => s!"Exceeds the limit ({Text.digitLimit} digits) for integer string conversion; " ++
    "use sys.set_int_max_str_digits() to increase the limit"
  | tooLarge => "Integer too large for a value"
  | outOfTurn => "Color not in the turn order"
  | scalar fault => fault.message
  | inaccessible fault path => fault.message path
  | tag fault => fault.message
  | noPath fault => fault.message
  | failure message => message
  | badArgument message => message

/-- What is met in the place of the error: itself, unless it cannot be put into words. -/
def met (e : Error) : Error := if e.isWritable then e else unwritten

/-- The words that are met. -/
def message (e : Error) : String := e.met.wording

/-- The error of a text that is no movement notation. -/
def ofMovement : NotationError Movement.Fault → Error
  | .malformed fault text offset => movement fault text offset
  | .number fault => number fault

/-- The error of a text that is no board notation. -/
def ofBoard : NotationError Board.Fault → Error
  | .malformed fault text offset => board fault text offset
  | .number fault => number fault

end Error

end VariantChess
