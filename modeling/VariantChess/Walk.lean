import VariantChess.Board.Basic
import VariantChess.Movement.Rule

/-!
# Walks

A walk follows one step across the board, square by square, until it leaves the board, is stopped by a
piece or has gone as far as its leg reaches. `Board.ray` lists the squares ahead and `Leg.walk` goes
through them; what it collects are the destinations, nearest first.
-/

namespace VariantChess

namespace Board

/-- No walk that moves at all stays on the board for more than this many steps. -/
def extent (b : Board) : Nat := max b.width b.height

/-- The squares `s + v`, `s + 2v`, …, at most `n` of them, up to the edge of the board. -/
def ray (b : Board) (v : Step) : Nat → Square → List Square
  | 0, _ => []
  | n + 1, s => if b.contains (s.shift v) then s.shift v :: ray b v n (s.shift v) else []

end Board

namespace Movement.Leg

/-- The destinations among the squares ahead, the first of which is `k` steps away. A square at a
distance that the leg does not accept only stops the walk, if a piece stands there. A locust that has
not leapt yet takes the first piece for its leap, and after it has leapt it passes empty squares by.
Otherwise an empty square is a destination unless the leg only captures, an enemy is one unless the
leg does not capture, and any piece stops a walk that does not leap. -/
def walk (leg : Leg) (b : Board) (color : Color) : Nat → Bool → List Square → List Square
  | _, _, [] => []
  | k, leapt, s :: ahead =>
    let leaping := leg.locust && !leapt
    match b.cell s with
    | none =>
      if leg.accepts k && !(leg.captureOnly || (leg.locust && leapt)) then
        s :: walk leg b color (k + 1) leapt ahead
      else walk leg b color (k + 1) leapt ahead
    | some piece =>
      if leg.accepts k then
        let blocked := leg.noCapture || piece.color == color || leaping
        let behind :=
          if leg.leaper || leaping then walk leg b color (k + 1) (leapt || blocked) ahead else []
        if blocked then behind else s :: behind
      else if leg.leaper || leaping then walk leg b color (k + 1) leapt ahead
      else []

/-- The number of squares that a walk looks at: as far as the leg reaches, but not beyond the board.
One square more than the board is long settles a leg that does not move. -/
def span (leg : Leg) (b : Board) : Nat :=
  match leg.maxSteps? with
  | some k => min k.toNat (b.extent + 1)
  | none => b.extent + 1

/-- The destinations of the walk from a square along a step. -/
def reach (leg : Leg) (b : Board) (color : Color) (start : Square) (v : Step) : List Square :=
  leg.walk b color 1 false (b.ray v (leg.span b) start)

end Movement.Leg

end VariantChess
