import VariantChess.Game.Hooks
import VariantChess.Ruleset.Basic

/-!
# Sessions

A session is one game of a ruleset: the board, the moves played, the outcome, and the hooks and
listeners that take part. `Session.submit` checks a move against the legal moves of its side, plays
it, runs the hooks of the piece, looks whether the next side can still play, records the move and
tells the listeners. Every step returns the session that it leaves together with its result, so what
has been changed before a failure can be seen.

Scripts may submit moves themselves. A step takes what such a nested submission does as an argument
(`Submission`), and `submit` ties the knot as many levels deep as there are tickets.
-/

namespace VariantChess

/-- A played move and its consequences. -/
structure Record where
  color : Color
  move : Move
  symbol : String
  captured : Bool
  nextColor : Color
  nextState : TerminalState
deriving DecidableEq, Repr

structure Session where
  ruleset : Ruleset
  hooks : Option Hooks := none
  /-- Scripts that run after every record. -/
  moveListeners : List Script := []
  /-- The tags of those who are told that the game is over. -/
  overListeners : List String := []
  board : Board
  history : List Record := []
  outcome : Outcome := .inProgress
  /-- The tickets that have been used. -/
  spent : List Nat := []
  notes : List Note := []

/-- The session that a step leaves, and the result of the step. -/
abbrev Reply (α : Type) := Session × Except Error α

/-- What submitting a move does. -/
abbrev Submission := Color → Move → Session → Reply Record

namespace Session

variable (s : Session)

/-! ### Queries -/

/-- The session with further notes. -/
def noted (notes : List Note) : Session := { s with notes := s.notes ++ notes }

/-- The session with a further log event. -/
def logged (event : Event) : Session := s.noted [.event event]

/-- The hooks as the move generator sees them. -/
def extraMoves : Option ExtraMoves := s.hooks.map Hooks.ask

def legalMoves (color : Color) : Report (List Move) :=
  VariantChess.legalMoves s.ruleset.catalogue s.board color s.extraMoves

def terminalState (color : Color) : Report TerminalState :=
  VariantChess.terminalState s.ruleset.catalogue s.board color s.extraMoves

def isInCheck (color : Color) : Except Error Bool :=
  VariantChess.isInCheck s.ruleset.catalogue s.board color

/-! ### The outcome -/

/-- Ends the game. -/
def finish (outcome : Outcome) : Session :=
  { s with outcome }.logged (match outcome with
    | .win color => .won color
    | _ => .drawn)

/-- Ends a game that is not over in favour of a side. -/
def declareWinner (color : Color) : Reply Unit :=
  if s.outcome.isOver then (s, .error (.move .gameOver none)) else (s.finish (.win color), .ok ())

/-- Ends the game if the side that was to move cannot play. -/
def settle (mover : Color) : TerminalState → Session
  | .playable => s
  | .checkmated => s.finish (.win mover)
  | .stalemated => s.finish .draw

/-! ### Scripts -/

/-- Writes a square of the board. -/
def write (square : Square) (cell : Cell) : Reply Unit :=
  match s.board.set square cell with
  | .error e => (s, .error (.offBoard e))
  | .ok board => ({ s with board }, .ok ())

/-- Turns the moved piece into another one if it stands on its farthest row. -/
def promote (symbol : String) (m : Move) : Reply Unit :=
  match s.board.get m.destination with
  | .error e => (s, .error (.offBoard e))
  | .ok none => (s, .ok ())
  | .ok (some piece) =>
    let last : Int := if piece.color.forward < 0 then 0 else s.board.height - 1
    if m.destination.y = last then s.write m.destination (some ⟨symbol, piece.color, true⟩)
    else (s, .ok ())

/-- Runs one action of a script about a move. -/
def perform (nested : Submission) (m : Move) : Action → Reply Unit
  | .say tag => (s.noted [.said tag m s.board], .ok ())
  | .declareWinner color => s.declareWinner color
  | .remove place => s.write (place.of m) none
  | .put place cell => s.write (place.of m) cell
  | .promote symbol => s.promote symbol m
  | .raise e => (s, .error e)
  | .raiseOnce ticket e =>
    if s.spent.contains ticket then (s, .ok ()) else ({ s with spent := ticket :: s.spent }, .error e)
  | .submit ticket color move =>
    if s.spent.contains ticket then (s, .ok ())
    else
      let (s, result) := nested color move { s with spent := ticket :: s.spent }
      (s, result.map fun _ => ())

/-- Runs a script about a move up to the first action that fails. -/
def runScript (nested : Submission) (m : Move) : Script → Session → Reply Unit
  | [], s => (s, .ok ())
  | action :: script, s =>
    match s.perform nested m action with
    | (s, .error e) => (s, .error e)
    | (s, .ok ()) => runScript nested m script s

/-- Runs scripts one after the other up to the first that fails. -/
def runScripts (nested : Submission) (m : Move) : List Script → Session → Reply Unit
  | [], s => (s, .ok ())
  | script :: scripts, s =>
    match runScript nested m script s with
    | (s, .error e) => (s, .error e)
    | (s, .ok ()) => runScripts nested m scripts s

/-! ### Hooks -/

/-- Calls the hook of an id; there must be one. -/
def callHook (nested : Submission) (hooks : Hooks) (occasion : Occasion) (id : String) (m : Move) :
    Reply Unit :=
  match hooks.script? occasion id with
  | none => (s, .error (.hook (.unknown occasion id) (some id) (some m.destination) []))
  | some script => runScript nested m script s

/-- Calls the hook of an id; a failure that is not the library's own is logged and wrapped. -/
def runHook (nested : Submission) (hooks : Hooks) (occasion : Occasion) (id : String) (m : Move) :
    Reply Unit :=
  match s.callHook nested hooks occasion id m with
  | (s, .ok ()) => (s, .ok ())
  | (s, .error e) =>
    if e.isOwn then (s, .error e)
    else
      (s.logged (.hookFailed id m e.message),
        .error (.hook (.failed id e.message) (some id) (some m.destination) []))

/-- Runs the hook of an id if the piece names one. -/
def runHook? (nested : Submission) (hooks : Hooks) (occasion : Occasion) (id : Option String)
    (m : Move) : Reply Unit :=
  match id with
  | none => (s, .ok ())
  | some id => s.runHook nested hooks occasion id m

/-- Runs the hooks of a piece that has moved: the one for moves and then, after a capture, the one for
captures. -/
def runPieceHooks (nested : Submission) (kind : PieceKind) (m : Move) (captured : Bool) : Reply Unit :=
  match s.hooks with
  | none => (s, .ok ())
  | some hooks =>
    match s.runHook? nested hooks .afterMove kind.afterMove m with
    | (s, .error e) => (s, .error e)
    | (s, .ok ()) =>
      if captured then s.runHook? nested hooks .afterCapture kind.afterCapture m else (s, .ok ())

/-! ### Submitting moves -/

/-- Whether a move may be played: the game is not over and the move is legal for its side. -/
def check (color : Color) (m : Move) : Reply Unit :=
  if s.outcome.isOver then (s, .error (.move .gameOver (some m)))
  else
    let legal := s.legalMoves color
    match legal.result with
    | .error e => (s.noted legal.notes, .error e)
    | .ok moves =>
      (s.noted legal.notes,
        if moves.contains m then .ok () else .error (.move (.illegal color) (some m)))

/-- Plays a move on the board; returns the moved piece, its kind and whether the move captured. -/
def playOn (color : Color) (m : Move) : Reply (Piece × PieceKind × Bool) :=
  match s.board.cell m.origin, s.board.play m with
  | some piece, .ok (board, captured) =>
    match s.ruleset.catalogue.lookup piece.symbol with
    | .error e => (s, .error e)
    | .ok kind => ({ s with board }.logged (.played color m captured), .ok (piece, kind, captured))
  | _, .error fault => (s, .error (.move fault (some m)))
  | none, .ok _ => (s, .error (.move .emptyOrigin (some m)))

/-- Finds the side that moves next and whether it can play; the game ends if it cannot. -/
def passTurn (color : Color) : Reply (Color × TerminalState) :=
  match s.ruleset.nextColor color with
  | .error e => (s, .error e)
  | .ok next =>
    if s.outcome.isOver then (s, .ok (next, .playable))
    else
      let state := s.terminalState next
      match state.result with
      | .error e => (s.noted state.notes, .error e)
      | .ok terminal => ((s.noted state.notes).settle color terminal, .ok (next, terminal))

/-- Records a move and tells the listeners. -/
def announce (nested : Submission) (record : Record) : Reply Unit :=
  let s := { s with history := s.history ++ [record] }
  match runScripts nested record.move s.moveListeners s with
  | (s, .error e) => (s, .error e)
  | (s, .ok ()) =>
    if s.outcome.isOver then (s.noted (s.overListeners.map fun tag => .over tag s.outcome), .ok ())
    else (s, .ok ())

/-- Submits a move, scripts submitting theirs through `nested`. The failure of a hook is returned only
after the move has been recorded. -/
def submitWith (nested : Submission) (color : Color) (m : Move) (s : Session) : Reply Record :=
  match s.check color m with
  | (s, .error e) => (s, .error e)
  | (s, .ok ()) =>
    match s.playOn color m with
    | (s, .error e) => (s, .error e)
    | (s, .ok (piece, kind, captured)) =>
      let (s, hooked) := s.runPieceHooks nested kind m captured
      match s.passTurn color with
      | (s, .error e) => (s, .error e)
      | (s, .ok (next, terminal)) =>
        let record : Record := ⟨color, m, piece.symbol, captured, next, terminal⟩
        match s.announce nested record with
        | (s, .error e) => (s, .error e)
        | (s, .ok ()) => (s, hooked.map fun _ => record)

/-- Submits a move with at most this many levels of submissions inside submissions. -/
def submitNested : Nat → Submission
  | 0 => fun _ _ s => (s, .error (.general "Too many submissions inside submissions"))
  | levels + 1 => submitWith (submitNested levels)

/-- The number of submissions in a script. -/
def submissions (script : Script) : Nat :=
  (script.filter fun action => match action with
    | .submit .. => true
    | _ => false).length

/-- The number of submissions in all scripts. Every nested submission uses up a ticket, so no
submission goes more levels deep than this. -/
def tickets : Nat :=
  let hooked := (s.hooks.map fun h => (h.afterMove ++ h.afterCapture).map (·.2)).getD []
  ((hooked ++ s.moveListeners).map submissions).foldl (· + ·) 0

/-- Submits a move for a side. -/
def submit (color : Color) (m : Move) : Reply Record := submitNested (s.tickets + 1) color m s

/-- Calls a hook outside of any submission. -/
def call (hooks : Hooks) (occasion : Occasion) (id : String) (m : Move) : Reply Unit :=
  s.callHook (submitNested s.tickets) hooks occasion id m

end Session

end VariantChess
