import VariantChess.Error

/-!
# Boards that share pieces

A cell does not hold its piece itself: it refers to it. What has been read from one square can be written to
another, and then the same piece stands on both. A move marks the piece that it moves, and the mark shows
wherever the piece stands. Where no piece stands twice this makes no difference, and a board is as good as
the values on its squares, which is how all other modules take it.

A `Desk` is a board in use with all pieces that there are. Its requests are those of a board; a copy of the
board has pieces of its own.
-/

namespace VariantChess

/-- Stands for a piece, by when it was made and for which square. -/
structure Ref where
  made : Nat
  place : Square
deriving DecidableEq, Repr

namespace Board

section

variable {α β : Type} (b : Board α)

/-- The board with the contents replaced, each according to its square. -/
def mapCells (f : Square → α → β) : Board β where
  width := b.width
  rows := b.rows.zipIdx.map fun (row, y) => row.zipIdx.map fun (c, x) => c.map (f ⟨x, y⟩)
  length_of_mem := by
    intro row h
    obtain ⟨⟨old, y⟩, hold, rfl⟩ := List.mem_map.1 h
    rw [List.length_map, List.length_zipIdx]
    exact b.length_of_mem old (List.fst_mem_of_mem_zipIdx hold)

end

/-- What can be seen of a board. -/
def shown (b : Board Ref) (piece : Ref → Piece) : Board := b.mapCells fun _ r => piece r

/-- The board with pieces that are made for it. -/
def laid (b : Board) (now : Nat) : Board Ref := b.mapCells fun s _ => ⟨now, s⟩

end Board

/-- The pieces that there are when pieces for a board have been made. -/
def piecesFor (b : Board) (now : Nat) (piece : Ref → Piece) (r : Ref) : Piece :=
  if r.made = now then (b.cell r.place).getD (piece r) else piece r

/-- A board in use, the copy that was made last, and the pieces. -/
structure Desk where
  piece : Ref → Piece
  /-- Pieces from now on are none of those that there are. -/
  now : Nat
  board : Board Ref
  copy : Board Ref

namespace Desk

inductive Request where
  /-- Makes a piece without putting it on the board. -/
  | make (p : Piece)
  | read (s : Square)
  | write (s : Square) (c : Option Ref)
  | remove (s : Square)
  | play (m : Move)
  | copy
  /-- Goes on with the copy and keeps the board in its place. -/
  | swap

inductive Response where
  | content (c : Option Ref)
  | done
  | played (captured : Bool)
deriving DecidableEq

variable (d : Desk)

/-- The desk with another state of one piece. -/
def turn (r : Ref) (p : Piece) : Desk := { d with piece := fun r' => if r' = r then p else d.piece r' }

/-- The board as it can be seen. -/
def sight : Board := d.board.shown d.piece

/-- The desk with a copy of its board. -/
def copied : Desk where
  piece := piecesFor d.sight d.now d.piece
  now := d.now + 1
  board := d.board
  copy := d.sight.laid d.now

def handle : Request → Desk × Except Error Response
  | .make p =>
    let r : Ref := ⟨d.now, ⟨0, 0⟩⟩
    ({ d.turn r p with now := d.now + 1 }, .ok (.content (some r)))
  | .read s => (d, ((d.board.get s).map .content).mapError fun refusal => (Error.offBoard refusal).met)
  | .write s c =>
    match d.board.set s c with
    | .error refusal => (d, .error (Error.offBoard refusal).met)
    | .ok board => ({ d with board }, .ok .done)
  | .remove s =>
    match d.board.remove s with
    | .error refusal => (d, .error (Error.offBoard refusal).met)
    | .ok (c, board) => ({ d with board }, .ok (.content c))
  | .play m =>
    match d.board.carry id m with
    | .error fault => (d, .error (Error.move fault (some m)).met)
    | .ok (board, r, captured) =>
      ({ d.turn r (d.piece r).marked with board }, .ok (.played captured))
  | .copy => (d.copied, .ok .done)
  | .swap => ({ d with board := d.copy, copy := d.board }, .ok .done)

/-- A desk with a board of these pieces, and a copy of it. -/
def start (piece : Ref → Piece) (now : Nat) (board : Board Ref) : Desk :=
  copied { piece, now, board, copy := board }

/-- A desk with a board whose pieces are made for it, and a copy of it. -/
def startWith (piece : Ref → Piece) (now : Nat) (b : Board) : Desk :=
  start (piecesFor b now piece) (now + 1) (b.laid now)

end Desk

end VariantChess
