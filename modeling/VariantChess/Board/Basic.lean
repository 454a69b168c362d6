import VariantChess.Move

/-!
# Boards

A board is a rectangle of cells, each empty or holding a piece, given row by row from the top.
`Board.ofRows` fills short rows up with empty cells, so the rectangle is part of the type. A square is
read and written through `cell` and `put`; `get`, `set` and `remove` refuse the squares off the board.
None of this depends on what a piece is, so other things than pieces may stand on a board as well.
-/

namespace VariantChess

/-- A piece on a board: the symbol of its kind, its side, and whether it has been moved. -/
structure Piece where
  symbol : String
  color : Color
  hasMoved : Bool := false
deriving DecidableEq, Repr

/-- The piece as one that has been moved. -/
def Piece.marked (p : Piece) : Piece := { p with hasMoved := true }

/-- The content of a cell. -/
abbrev Cell := Option Piece

structure Board (α : Type := Piece) where
  width : Nat
  rows : List (List (Option α))
  /-- All rows are as long as the board is wide. -/
  length_of_mem : ∀ row ∈ rows, row.length = width
deriving DecidableEq, Repr

/-- A square that was asked for and the size of the board that it lies off. -/
structure OffBoard where
  square : Square
  width : Nat
  height : Nat
deriving DecidableEq, Repr

namespace Board

section

variable {α : Type} (b : Board α)

def height : Nat := b.rows.length

/-! ### Construction -/

/-- The row filled up with empty cells. -/
def fill (width : Nat) (row : List (Option α)) : List (Option α) := row ++ List.replicate (width - row.length) none

/-- The length of the longest row. -/
def widest : List (List (Option α)) → Nat
  | [] => 0
  | row :: rows => max row.length (widest rows)

theorem length_le_widest {row : List (Option α)} {rows : List (List (Option α))} (h : row ∈ rows) :
    row.length ≤ widest rows := by
  induction rows with
  | nil => simp at h
  | cons r rows ih =>
    rcases List.mem_cons.1 h with rfl | h
    · exact Nat.le_max_left ..
    · exact Nat.le_trans (ih h) (Nat.le_max_right ..)

/-- The board of these rows, as wide as the longest of them. -/
def ofRows (rows : List (List (Option α))) : Board α where
  width := widest rows
  rows := rows.map (fill (widest rows))
  length_of_mem := by
    intro row h
    obtain ⟨r, hr, rfl⟩ := List.mem_map.1 h
    have := length_le_widest hr
    simp only [fill, List.length_append, List.length_replicate]
    omega

/-- The board without pieces. -/
def empty (width height : Nat) : Board α where
  width := width
  rows := List.replicate height (List.replicate width none)
  length_of_mem := by
    intro row h
    rw [List.eq_of_mem_replicate h, List.length_replicate]

/-- The board without pieces, unless the size is negative. -/
def empty? (width height : Int) : Option (Board α) :=
  if width < 0 || height < 0 then none else some (empty width.toNat height.toNat)

/-! ### Squares -/

/-- Whether the square lies on the board. -/
def contains (s : Square) : Bool :=
  0 ≤ s.x && s.x < b.width && 0 ≤ s.y && s.y < b.height

/-- What stands on the square; nothing off the board. -/
def cell (s : Square) : Option α :=
  if b.contains s then (b.rows.getD s.y.toNat []).getD s.x.toNat none else none

/-- The board with another content of the square; squares off the board have none. -/
def put (s : Square) (c : Option α) : Board α where
  width := b.width
  rows := if b.contains s then b.rows.modify s.y.toNat fun row => row.set s.x.toNat c else b.rows
  length_of_mem := by
    intro row h
    split at h
    · obtain ⟨i, hi, rfl⟩ := List.mem_iff_getElem.1 h
      rw [List.getElem_modify]
      have hi : i < b.rows.length := by simpa using hi
      split
      · rw [List.length_set]
        exact b.length_of_mem _ (List.getElem_mem hi)
      · exact b.length_of_mem _ (List.getElem_mem hi)
    · exact b.length_of_mem _ h

/-- The refusal of a square of this board. -/
def off (s : Square) : OffBoard := ⟨s, b.width, b.height⟩

/-- What stands on a square of the board. -/
def get (s : Square) : Except OffBoard (Option α) :=
  if b.contains s then .ok (b.cell s) else .error (b.off s)

/-- Writes a square of the board. -/
def set (s : Square) (c : Option α) : Except OffBoard (Board α) :=
  if b.contains s then .ok (b.put s c) else .error (b.off s)

/-- Clears a square of the board and returns what stood there. -/
def remove (s : Square) : Except OffBoard (Option α × Board α) :=
  if b.contains s then .ok (b.cell s, b.put s none) else .error (b.off s)

/-! ### Pieces and moves -/

/-- The occupied squares with their pieces, row by row from the top and from left to right. -/
def pieces : List (Square × α) :=
  b.rows.zipIdx.flatMap fun (row, y) =>
    row.zipIdx.filterMap fun (c, x) => c.map fun piece => (⟨x, y⟩, piece)

/-- The board after a move that turns what it moves by `mark`; with it what has been moved, as it was
before, and whether the destination was occupied. -/
def carry (mark : α → α) (m : Move) : Except Move.Fault (Board α × α × Bool) :=
  if !(b.contains m.origin && b.contains m.destination) then .error .leavesBoard
  else if m.origin = m.destination then .error .staysPut
  else match b.cell m.origin with
    | none => .error .emptyOrigin
    | some p =>
      .ok ((b.put m.origin none).put m.destination (some (mark p)), p, (b.cell m.destination).isSome)

end

/-! ### Sides -/

variable (b : Board)

/-- The pieces of one side. -/
def piecesOf (color : Color) : List (Square × Piece) :=
  b.pieces.filter fun p => p.2.color == color

/-- The squares of the pieces with some property. -/
def squaresWhere (p : Piece → Bool) : List Square :=
  (b.pieces.filter fun q => p q.2).map (·.1)

/-- The sides that have a piece. -/
def colors : List Color := Color.all.filter fun color => b.pieces.any fun p => p.2.color == color

/-- The board after a move, with the moved piece marked as such, and whether the destination was
occupied. -/
def play (m : Move) : Except Move.Fault (Board × Bool) :=
  (b.carry Piece.marked m).map fun (board, _, captured) => (board, captured)

end Board

end VariantChess
