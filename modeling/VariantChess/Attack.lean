import VariantChess.Targets

/-!
# Attacks

A square is attacked by the pieces of the other sides that have it among their targets. Hooks play no
part in it. A side is in check if one of its royal pieces is attacked.
-/

namespace VariantChess

/-- Whether a piece has the square among its targets. -/
def attacks (c : Catalogue) (b : Board) (target : Square) (attacker : Square × Piece) :
    Except Error Bool :=
  match c.lookup attacker.2.symbol with
  | .error e => .error e
  | .ok kind => (kind.targets b attacker.2 attacker.1).map fun targets => targets.contains target

/-- The pieces of all sides but one. -/
def Board.enemiesOf (b : Board) (color : Color) : List (Square × Piece) :=
  b.pieces.filter fun p => p.2.color != color

/-- Whether a side other than the defender attacks the square. -/
def isAttacked (c : Catalogue) (b : Board) (defender : Color) (target : Square) : Except Error Bool :=
  if b.contains target then anyPasses (attacks c b target) (b.enemiesOf defender)
  else .error (.offTarget target)

/-- The squares of the pieces that attack a square, in the order of the board. -/
def attackersOf (c : Catalogue) (b : Board) (defender : Color) (target : Square) :
    Except Error (List Square) :=
  if b.contains target then
    (keep (attacks c b target) (b.enemiesOf defender)).map fun attackers => attackers.map (·.1)
  else .error (.offTarget target)

/-- The squares of the royal pieces of a side. -/
def royalSquares (c : Catalogue) (b : Board) (color : Color) : Except Error (List Square) :=
  (keep (fun p => (c.lookup p.2.symbol).map (·.royal)) (b.piecesOf color)).map fun royals =>
    royals.map (·.1)

/-- Whether a royal piece of the side is attacked. -/
def isInCheck (c : Catalogue) (b : Board) (color : Color) : Except Error Bool :=
  match royalSquares c b color with
  | .error e => .error e
  | .ok royals => anyPasses (isAttacked c b color) royals

end VariantChess
