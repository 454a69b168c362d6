/-!
# Squares and steps

A square is a column and a row, `(0, 0)` being the top left one; columns grow to the right and rows
downward. A step leads from a square to another; both may lie off every board.
-/

namespace VariantChess

/-- A column and a row. -/
structure Square where
  x : Int
  y : Int
deriving DecidableEq, Repr

/-- A difference of columns and a difference of rows. -/
structure Step where
  dx : Int
  dy : Int
deriving DecidableEq, Repr

namespace Square

/-- The square one step away. -/
def shift (s : Square) (v : Step) : Square := ⟨s.x + v.dx, s.y + v.dy⟩

/-- Column first, then row. -/
def precedes (a b : Square) : Bool := a.x < b.x || (a.x == b.x && a.y < b.y)

instance : ToString Square := ⟨fun s => s!"({s.x}, {s.y})"⟩

end Square

end VariantChess
