import VariantChess.Color
import VariantChess.Sorted
import VariantChess.Square

/-!
# Moves

A move is an origin and a destination. Lists of moves are given in increasing order, by origin and
then by destination, without repetition.
-/

namespace VariantChess

structure Move where
  origin : Square
  destination : Square
deriving DecidableEq, Repr

namespace Move

/-- By origin, then by destination. -/
def precedes (a b : Move) : Bool :=
  a.origin.precedes b.origin || (a.origin == b.origin && a.destination.precedes b.destination)

/-- The distinct moves of the list in increasing order. -/
def sort (moves : List Move) : List Move := sortDistinct precedes moves

instance : ToString Move where
  toString m := s!"{m.origin.x},{m.origin.y}-{m.destination.x},{m.destination.y}"

/-- Why a move is refused. -/
inductive Fault where
  | leavesBoard
  | staysPut
  | emptyOrigin
  | gameOver
  | illegal (color : Color)
  /-- A refusal in the words of a script. -/
  | other (message : String)
deriving DecidableEq, Repr

def Fault.message : Fault → String
  | leavesBoard => "Move leaves the board"
  | staysPut => "Move does not change cell"
  | emptyOrigin => "No piece on source cell"
  | gameOver => "Game is already over"
  | illegal color => s!"Illegal move for {color}"
  | other message => message

end Move

end VariantChess
