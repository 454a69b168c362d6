import VariantChess.Attack
import VariantChess.PseudoLegal

/-!
# Legal moves

A move is legal if no royal piece of its side is attacked once it is played. A side without legal
moves is checkmated if it is in check and stalemated if it is not.
-/

namespace VariantChess

/-- Whether the move can be played and leaves no royal piece of the side attacked. -/
def isSafe (c : Catalogue) (b : Board) (color : Color) (m : Move) : Except Error Bool :=
  match b.play m with
  | .error _ => .ok false
  | .ok (after, _) => (isInCheck c after color).map (!·)

/-- The moves of the list that are safe for the side. -/
def filterLegal (c : Catalogue) (b : Board) (color : Color) (moves : List Move) :
    Except Error (List Move) :=
  keep (isSafe c b color) moves

/-- The legal moves of a side in increasing order. -/
def legalMoves (c : Catalogue) (b : Board) (color : Color) (hook : Option ExtraMoves) :
    Report (List Move) := do
  let moves ← pseudoLegalMoves c b color hook
  Report.of (filterLegal c b color moves)

/-- Whether the side can play, and why not. -/
def terminalState (c : Catalogue) (b : Board) (color : Color) (hook : Option ExtraMoves) :
    Report TerminalState := do
  let moves ← legalMoves c b color hook
  if !moves.isEmpty then return .playable
  else if ← Report.of (isInCheck c b color) then do
    Report.log (.checkmated color)
    return .checkmated
  else do
    Report.log (.stalemated color)
    return .stalemated

end VariantChess
