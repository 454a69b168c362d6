import VariantChess.Proofs.Board.Cells
import VariantChess.Walk

/-!
# Reflected boards

A board can be reflected left to right, and top to bottom when white and black change places, since
these two move forward in opposite directions. `Reflection.square` takes every square of a board to its
place on the reflected one and `Reflection.board` moves what stands there along (`cell_board`); done
twice, either gives back what there was. What a square sees along a step, its image sees along the
reflected step (`ray_board`), and playing a move commutes with reflecting (`play_board`).
-/

namespace VariantChess

/-- A way to reflect a board. -/
inductive Reflection where
  | leftRight
  | topBottom
deriving DecidableEq, Repr

namespace Reflection

/-- The side that a side becomes. -/
def color : Reflection → Color → Color
  | topBottom, .white => .black
  | topBottom, .black => .white
  | _, color => color

def step : Reflection → Step → Step
  | leftRight, v => ⟨-v.dx, v.dy⟩
  | topBottom, v => ⟨v.dx, -v.dy⟩

/-- The place of a square of the board on the reflected one. -/
def square (r : Reflection) (b : Board) (s : Square) : Square :=
  match r with
  | leftRight => ⟨b.width - 1 - s.x, s.y⟩
  | topBottom => ⟨s.x, b.height - 1 - s.y⟩

def move (r : Reflection) (b : Board) (m : Move) : Move :=
  ⟨r.square b m.origin, r.square b m.destination⟩

def piece (r : Reflection) (p : Piece) : Piece := { p with color := r.color p.color }

def rows : Reflection → List (List Cell) → List (List Cell)
  | leftRight, rows => rows.map List.reverse
  | topBottom, rows => rows.reverse

theorem length_of_mem_rows {r : Reflection} {rows : List (List Cell)} {row : List Cell} {width : Nat}
    (length : ∀ row ∈ rows, row.length = width) (h : row ∈ r.rows rows) : row.length = width := by
  cases r with
  | leftRight =>
    obtain ⟨row', hrow, rfl⟩ := List.mem_map.1 h
    rw [List.length_reverse, length row' hrow]
  | topBottom => exact length row (List.mem_reverse.1 h)

def board (r : Reflection) (b : Board) : Board where
  width := b.width
  rows := (r.rows b.rows).map fun row => row.map (Option.map r.piece)
  length_of_mem := by
    intro row h
    obtain ⟨row', hrow, rfl⟩ := List.mem_map.1 h
    rw [List.length_map, length_of_mem_rows b.length_of_mem hrow]

/-- The side moves forward as the side that it becomes does on the reflected board. -/
def Fits (r : Reflection) (color : Color) : Prop := r = topBottom → color ≠ .yellow

variable {r : Reflection} {b after : Board} {side other : Color} {s t : Square} {v : Step} {p : Piece}
  {m : Move} {captured : Bool}

/-! ### Sides and pieces -/

@[simp] theorem color_color : r.color (r.color side) = side := by
  cases r <;> cases side <;> rfl

@[simp] theorem color_inj : r.color side = r.color other ↔ side = other := by
  constructor
  · intro h
    have twice := congrArg r.color h
    rwa [color_color, color_color] at twice
  · exact congrArg r.color

theorem Fits.reflected (h : r.Fits side) : r.Fits (r.color side) := by
  rintro rfl
  have hne : side ≠ .yellow := h rfl
  cases side with
  | white => exact nofun
  | black => exact nofun
  | yellow => exact absurd rfl hne

@[simp] theorem piece_color : (r.piece p).color = r.color p.color := rfl

@[simp] theorem piece_piece : r.piece (r.piece p) = p := by simp [piece]

/-! ### Squares -/

@[simp] theorem width_board : (r.board b).width = b.width := rfl

@[simp] theorem height_board : (r.board b).height = b.height := by
  cases r <;> simp [Board.height, board, rows]

theorem square_congr (width : after.width = b.width) (height : after.height = b.height) :
    r.square after = r.square b := by
  cases r <;> funext s <;> simp [square, width, height]

@[simp] theorem square_board : r.square (r.board b) = r.square b :=
  square_congr width_board height_board

@[simp] theorem square_square : r.square b (r.square b s) = s := by
  have twice : ∀ n i : Int, n - 1 - (n - 1 - i) = i := by omega
  cases r <;> cases s <;> simp [square, twice]

@[simp] theorem square_inj : r.square b s = r.square b t ↔ s = t := by
  constructor
  · intro h
    have twice := congrArg (r.square b) h
    rwa [square_square, square_square] at twice
  · exact congrArg (r.square b)

@[simp] theorem contains_square : (r.board b).contains (r.square b s) = b.contains s := by
  rw [Bool.eq_iff_iff, Board.contains_iff, Board.contains_iff, width_board, height_board]
  cases r <;> simp only [square] <;> omega

theorem square_shift : r.square b (s.shift v) = (r.square b s).shift (r.step v) := by
  cases r <;> simp only [square, Square.shift, step, Square.mk.injEq, true_and, and_true] <;> omega

/-- What lies ahead of a square lies ahead of its image along the reflected step. -/
theorem ray_board (v : Step) (n : Nat) (s : Square) :
    (r.board b).ray (r.step v) n (r.square b s) = (b.ray v n s).map (r.square b) := by
  induction n generalizing s with
  | zero => rfl
  | succ n ih =>
    rw [Board.ray, Board.ray, ← square_shift, contains_square, ih]
    split <;> simp

/-! ### Cells -/

@[simp] theorem cell_board : (r.board b).cell (r.square b s) = (b.cell s).map r.piece := by
  by_cases hs : b.contains s
  · obtain ⟨x, y, rfl, hx, hy⟩ := Board.exists_natCast_of_contains hs
    have hy' : y < b.rows.length := hy
    have hrow : b.rows[y].length = b.width := b.length_of_mem _ (List.getElem_mem hy')
    cases r with
    | leftRight =>
      have image : leftRight.square b ⟨x, y⟩ = ⟨(b.width - 1 - x : Nat), y⟩ := by
        simp only [square, Square.mk.injEq, and_true]
        omega
      have mirrored : b.rows[y].reverse[b.width - 1 - x]? = b.rows[y][x]? := by
        rw [List.getElem?_reverse (by omega), hrow]
        congr 1
        omega
      rw [image, Board.cell_natCast, Board.cell_natCast]
      cases hcell : b.rows[y][x]? <;> simp [board, rows, hy', -List.map_reverse, mirrored, hcell]
    | topBottom =>
      have image : topBottom.square b ⟨x, y⟩ = ⟨x, (b.height - 1 - y : Nat)⟩ := by
        simp only [square, Square.mk.injEq, true_and]
        omega
      have mirrored : b.rows.reverse[b.height - 1 - y]? = b.rows[y]? := by
        rw [List.getElem?_reverse (by simp only [Board.height] at hy ⊢; omega)]
        congr 1
        simp only [Board.height] at hy ⊢
        omega
      rw [image, Board.cell_natCast, Board.cell_natCast]
      cases hcell : b.rows[y][x]? <;> simp [board, rows, hy', -List.map_reverse, mirrored, hcell]
  · rw [Board.cell, contains_square, if_neg hs, Board.cell, if_neg hs]
    rfl

@[simp] theorem board_board : r.board (r.board b) = b := by
  refine Board.eq_of_cell rfl (by simp) fun s => ?_
  have twice : (r.board (r.board b)).cell (r.square (r.board b) (r.square b s)) =
      ((r.board b).cell (r.square b s)).map r.piece := cell_board
  rw [square_board, square_square, cell_board, Option.map_map] at twice
  rw [twice]
  cases b.cell s <;> simp

/-! ### Moves -/

@[simp] theorem move_board : r.move (r.board b) = r.move b := by
  funext m
  simp [move]

@[simp] theorem move_move : r.move b (r.move b m) = m := by simp [move]

theorem move_injective : Function.Injective (r.move b) := by
  intro m m' h
  have twice := congrArg (r.move b) h
  rwa [move_move, move_move] at twice

theorem play_board (h : b.play m = .ok (after, captured)) :
    (r.board b).play (r.move b m) = .ok (r.board after, captured) := by
  obtain ⟨ho, hd, hne, p, hp, hcaptured, -⟩ := Board.play_eq_ok_iff.1 h
  have hp' : (r.board b).cell (r.move b m).origin = some (r.piece p) := by simp [move, hp]
  obtain ⟨after', h'⟩ : ∃ after', (r.board b).play (r.move b m) = .ok (after', captured) :=
    ⟨_, Board.play_eq_ok_iff.2 ⟨by simpa [move] using ho, by simpa [move] using hd,
      by simpa [move] using hne, _, hp', by simp [move, hcaptured], rfl⟩⟩
  have square : r.square after = r.square b :=
    square_congr (Board.width_of_play h) (Board.height_of_play h)
  have same : after' = r.board after := by
    refine Board.eq_of_cell ?_ ?_ fun s => ?_
    · rw [Board.width_of_play h', width_board, width_board, Board.width_of_play h]
    · rw [Board.height_of_play h', height_board, height_board, Board.height_of_play h]
    obtain ⟨t, rfl⟩ : ∃ t, r.square b t = s := ⟨r.square b s, square_square⟩
    rw [Board.cell_of_play h' hp', ← square, cell_board, square, cell_board, Board.cell_of_play h hp]
    simp only [move, square_inj]
    split_ifs <;> rfl
  rw [h', same]

end Reflection

end VariantChess
