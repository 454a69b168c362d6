import VariantChess.PseudoLegal

/-!
# Hooks

A hook is a script under an id that kinds of pieces refer to. An extra-moves hook answers with
destinations; the scripts that run after a move or a capture are lists of actions on the game, and so are
those of the listeners.

A script stands for a callback that does the same things in the same order whenever it runs, up to the
first that fails: it says something, ends the game, writes squares, promotes, fails or submits moves. It
does not look at the game to choose among them, does not go on after a failure of its own and keeps nothing
in mind from one run to the next, except which tickets are used: a submission carries a ticket and does
nothing once the ticket has been used, so a script that sets itself off again comes to an end. So does a
submission that cannot even be made. A callback that chooses does in every run what one of these
scripts does, but no script stands for all of its runs; one that goes on after a failure is not among them.

In a session an extra-moves hook answers for the origin and does not look at the board. The move generator
itself asks any function of id, origin and board (`ExtraMoves`).
-/

namespace VariantChess

/-- A square of a script: one of the two squares of the move, or a fixed one. -/
inductive Place where
  | origin
  | destination
  | square (s : Square)
deriving DecidableEq, Repr

def Place.of (m : Move) : Place → Square
  | origin => m.origin
  | destination => m.destination
  | square s => s

inductive Action where
  /-- Says something about the move and the board. -/
  | say (tag : String)
  | declareWinner (color : Color)
  | remove (place : Place)
  | put (place : Place) (cell : Cell)
  /-- Turns the moved piece into another one if it stands on its farthest row. -/
  | promote (symbol : String)
  | raise (e : Error)
  /-- Fails, once. -/
  | raiseOnce (ticket : Nat) (e : Error)
  /-- Submits a move, once. -/
  | submit (ticket : Nat) (color : Color) (move : Move)

abbrev Script := List Action

/-- What an extra-moves hook does. -/
inductive Answer where
  /-- Destinations relative to the origin. -/
  | offsets (steps : List Step)
  | destinations (answers : List Datum)
  | raise (e : Error)

/-- The answer for a piece on the origin. -/
def Answer.report (origin : Square) : Answer → Report (List Datum)
  | offsets steps =>
    pure (steps.map fun v => .list [.int (origin.x + v.dx), .int (origin.y + v.dy)])
  | destinations answers => pure answers
  | raise e => .fail e

structure Hooks where
  extraMoves : List (String × Answer) := []
  afterMove : List (String × Script) := []
  afterCapture : List (String × Script) := []

namespace Hooks

/-- Puts a hook under an id, in the place of the one that was there. -/
def register {α : Type} (id : String) (hook : α) (table : List (String × α)) : List (String × α) :=
  (id, hook) :: table.filter fun e => e.1 != id

/-- The hooks of the bundled rulesets: pawns are promoted to queens. -/
def standard : Hooks where
  afterMove := [("promote", [.promote "q"])]

/-- Whether there is a hook of any sort under the id. -/
def contains (h : Hooks) (id : String) : Bool :=
  (h.extraMoves.lookup id).isSome || (h.afterMove.lookup id).isSome ||
    (h.afterCapture.lookup id).isSome

/-- Asks the extra-moves hook of an id. -/
def ask (h : Hooks) : ExtraMoves := fun id origin _ =>
  match h.extraMoves.lookup id with
  | none => .fail (.hook (.unknown .extraMoves id) (some id) (some origin) [])
  | some answer =>
    let report := answer.report origin
    ⟨report.result, .asked origin :: report.notes⟩

/-- The script of an id for an occasion. -/
def script? (h : Hooks) (occasion : Occasion) (id : String) : Option Script :=
  match occasion with
  | .extraMoves => none
  | .afterMove => h.afterMove.lookup id
  | .afterCapture => h.afterCapture.lookup id

end Hooks

end VariantChess
