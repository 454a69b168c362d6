import VariantChess.Proofs.Board.Sharing
import VariantChess.Proofs.Text.Digit

/-!
# Boards under requests

A board that is read, written, cleared, played on and copied, in any order and with any coordinates. What
carries the argument is what one request does to any board at all (`Desk.accounts_handle`); where the board
has come from matters only for its size, which no request changes (`Desk.sized_after`), and for the pieces
that there are.

The account is one of references: a refused request leaves everything as it was, and a granted one changes
the squares that it names and no other; a move leaves one more mark, on the piece that it moves. On a board
whose pieces are seen and not referred to, more than two squares change if that piece stands on them too.
And a square off the board is refused as such only if it can be written. These two conditions are all that is
needed for the requests to be answered as the board promises (`Desk.promises_iff_fair`).
-/

namespace VariantChess

/-- The square lies in the rectangle of the board, the origin being its top left corner. -/
def Square.Inside {α : Type} (s : Square) (b : Board α) : Prop :=
  0 ≤ s.x ∧ s.x < b.width ∧ 0 ≤ s.y ∧ s.y < b.height

/-! ### Boards -/

namespace Board

variable {α : Type}

/-- The board has this size, and its rows have it too. -/
structure Sized (w h : Nat) (b : Board α) : Prop where
  width : b.width = w
  height : b.height = h
  length : ∀ row ∈ b.rows, row.length = w

/-- The board has kept its size, and on its squares stands what is told. -/
structure Becomes (b after : Board α) (told : Square → Option α) : Prop where
  width : after.width = b.width
  height : after.height = b.height
  cell : ∀ s, after.cell s = told s

variable {b after : Board α} {s : Square} {w h : Nat} {m : Move} {p : α} {mark : α → α} {captured : Bool}

theorem Sized.of_size (width : b.width = w) (height : b.height = h) : b.Sized w h :=
  ⟨width, height, fun row hrow => width ▸ b.length_of_mem row hrow⟩

theorem Becomes.sized {told : Square → Option α} (becomes : b.Becomes after told) (sized : b.Sized w h) :
    after.Sized w h :=
  .of_size (becomes.width.trans sized.width) (becomes.height.trans sized.height)

/-- A square inside is found in its row. -/
theorem row_of_inside (inside : s.Inside b) :
    b.rows[s.y.toNat]?.bind (·[s.x.toNat]?) = some (b.cell s) := by
  obtain ⟨x, y, rfl, hx, hy⟩ := exists_natCast_of_contains (contains_iff.2 inside)
  have hy : y < b.rows.length := hy
  have hx : x < b.rows[y].length := by rwa [b.length_of_mem _ (List.getElem_mem hy)]
  simp [cell_natCast, hy, hx]

theorem exists_row_of_cell (h : b.cell s = some p) : ∃ row ∈ b.rows, some p ∈ row := by
  obtain ⟨x, y, rfl, hx, hy⟩ := exists_natCast_of_contains (contains_of_cell h)
  have hy : y < b.rows.length := hy
  have hx : x < b.rows[y].length := by rwa [b.length_of_mem _ (List.getElem_mem hy)]
  have found : b.rows[y][x] = some p := by simpa [cell_natCast, hy, hx] using h
  exact ⟨b.rows[y], List.getElem_mem hy, found ▸ List.getElem_mem hx⟩

theorem becomes_put (inside : s.Inside b) (c : Option α) :
    b.Becomes (b.put s c) (Function.update b.cell s c) := by
  refine ⟨width_put, height_put, fun t => ?_⟩
  by_cases h : t = s
  · subst h
    rw [cell_put_self (contains_iff.2 inside), Function.update_self]
  · rw [cell_put_of_ne h, Function.update_of_ne h]

theorem carry_of_leaves (outside : ¬ (m.origin.Inside b ∧ m.destination.Inside b)) :
    b.carry mark m = .error .leavesBoard := by
  have leaves : (b.contains m.origin && b.contains m.destination) = false := by
    rw [← Bool.not_eq_true, Bool.and_eq_true, contains_iff, contains_iff]
    exact outside
  simp only [carry, leaves, Bool.not_false, if_true]

section

variable (origin : m.origin.Inside b) (destination : m.destination.Inside b)
include origin destination

theorem carry_of_stays (same : m.origin = m.destination) : b.carry mark m = .error .staysPut := by
  have ho : b.contains m.origin := contains_iff.2 origin
  have hd : b.contains m.destination := contains_iff.2 destination
  rw [carry, if_neg (by simp [ho, hd]), if_pos same]

theorem carry_of_empty (ne : m.origin ≠ m.destination) (hp : b.cell m.origin = none) :
    b.carry mark m = .error .emptyOrigin := by
  have ho : b.contains m.origin := contains_iff.2 origin
  have hd : b.contains m.destination := contains_iff.2 destination
  rw [carry, if_neg (by simp [ho, hd]), if_neg ne, hp]

theorem exists_carry (ne : m.origin ≠ m.destination) (hp : b.cell m.origin = some p) :
    ∃ after captured, b.carry mark m = .ok (after, p, captured) :=
  ⟨_, _, carry_eq_ok_iff.2 ⟨contains_iff.2 origin, contains_iff.2 destination, ne, hp, rfl, rfl⟩⟩

end

theorem becomes_of_carry (made : b.carry mark m = .ok (after, p, captured)) :
    b.Becomes after
      (Function.update (Function.update b.cell m.origin none) m.destination (some (mark p))) := by
  refine ⟨width_of_carry made, height_of_carry made, fun s => ?_⟩
  rw [cell_of_carry made, Function.update_apply, Function.update_apply]

/-- What is seen of a board follows it. -/
theorem Becomes.shown {b after : Board Ref} {told : Square → Option Ref} {piece : Ref → Piece}
    (becomes : b.Becomes after told) :
    (b.shown piece).Becomes (after.shown piece) fun s => (told s).map piece where
  width := becomes.width
  height := by
    rw [Board.shown, Board.shown, height_mapCells, height_mapCells]
    exact becomes.height
  cell s := by rw [cell_shown, becomes.cell]

theorem Becomes.congr {told told' : Square → Option α} (becomes : b.Becomes after told)
    (same : ∀ s, told s = told' s) : b.Becomes after told' :=
  ⟨becomes.width, becomes.height, fun s => (becomes.cell s).trans (same s)⟩

theorem map_update {b : Board Ref} {piece : Ref → Piece} (s : Square) (c : Option Ref) (t : Square) :
    (Function.update b.cell s c t).map piece =
      Function.update (b.shown piece).cell s (c.map piece) t := by
  rw [Function.update_apply, Function.update_apply]
  by_cases same : t = s
  · rw [if_pos same, if_pos same]
  · rw [if_neg same, if_neg same, cell_shown]

end Board

namespace Desk

/-- A desk with a board that is made in one of the three ways there are, and the size of the board. Rows may
hold any pieces, also one that stands in them twice; the pieces of a text are made for it. -/
inductive Built : Desk → Nat → Nat → Prop where
  | rows (piece : Ref → Piece) (now : Nat) (rows : List (List (Option Ref)))
      (made : ∀ row ∈ rows, ∀ r, some r ∈ row → r.made < now) :
      Built (start piece now (.ofRows rows)) (Board.widest rows) rows.length
  | empty (piece : Ref → Piece) (now : Nat) {width height : Int} {b : Board}
      (made : Board.empty? width height = some b) : Built (startWith piece now b) width.toNat height.toNat
  | text (piece : Ref → Piece) (now : Nat) {text : String} {known : Option (List String)} {b : Board}
      (made : Board.read text known = .ok b) : Built (startWith piece now b) b.width b.height

/-- The desks after requests, the refused ones among them. -/
inductive Reached (d₀ : Desk) : Desk → Prop where
  | refl : Reached d₀ d₀
  | ask {d : Desk} {request : Request} (reached : Reached d₀ d) (has : d.Has request) :
      Reached d₀ (d.handle request).1

/-! ### What a request does -/

section Accounts

variable (d after : Desk) (response : Except Error Response)

/-- The refusal of a square off the board. -/
def off (s : Square) : Error := .offBoard (d.board.off s)

/-- The request is refused and changes nothing. -/
def Refused (e : Error) : Prop := after = d ∧ response = .error e

/-- A request of a square is granted if the square is inside, and refused otherwise. -/
def OfSquare (s : Square) (refusal : Error) (granted : Prop) : Prop :=
  (s.Inside d.board → granted) ∧ (¬ s.Inside d.board → d.Refused after response refusal)

/-- Nothing but the board has changed. -/
structure Keeps : Prop where
  piece : after.piece = d.piece
  now : after.now = d.now
  copy : after.copy = d.copy

/-- A piece that no board has yet. -/
def Made (p : Piece) : Prop := ∃ r : Ref, response = .ok (.content (some r)) ∧ d.now ≤ r.made ∧
  r.made < after.now ∧ after.piece = Function.update d.piece r p ∧ after.board = d.board ∧ after.copy = d.copy

/-- A piece has moved: its origin is empty, it is on the destination and marked, and there is one piece less
on the board if another one stood there. -/
structure Moved (m : Move) (r : Ref) (captured : Bool) : Prop where
  answer : response = .ok (.played captured)
  capture_iff : captured = true ↔ d.board.cell m.destination ≠ none
  board : d.board.Becomes after.board
    (Function.update (Function.update d.board.cell m.origin none) m.destination (some r))
  pieces : after.board.pieces.length + captured.toNat = d.board.pieces.length
  piece : after.piece = Function.update d.piece r (d.piece r).marked
  now : after.now = d.now
  copy : after.copy = d.copy

/-- A move is refused for the first of three reasons, and made if there is none. -/
structure OfMove (m : Move) : Prop where
  leaves : ¬ (m.origin.Inside d.board ∧ m.destination.Inside d.board) →
    d.Refused after response (Error.move .leavesBoard (some m)).met
  stays : m.origin.Inside d.board → m.destination.Inside d.board → m.origin = m.destination →
    d.Refused after response (Error.move .staysPut (some m)).met
  empty : m.origin.Inside d.board → m.destination.Inside d.board → m.origin ≠ m.destination →
    d.board.cell m.origin = none → d.Refused after response (Error.move .emptyOrigin (some m)).met
  moves : m.origin.Inside d.board → m.destination.Inside d.board → m.origin ≠ m.destination →
    ∀ r, d.board.cell m.origin = some r → ∃ captured, d.Moved after response m r captured

/-- A copy looks like the board, but all pieces on it are new and stand on one square each. -/
structure Copied : Prop where
  answer : response = .ok .done
  board : after.board = d.board
  kept : ∀ r, r.made < d.now → after.piece r = d.piece r
  shown : after.copy.shown after.piece = d.sight
  fresh : ∀ s r, after.copy.cell s = some r → d.now ≤ r.made ∧ r.made < after.now
  unshared : after.copy.Unshared

/-- How a request is answered, and what it makes of the desk. -/
def Accounts : Request → Prop
  | .make p => d.Made after response p
  | .read s => d.OfSquare after response s (d.off s).met <| after = d ∧
      d.board.rows[s.y.toNat]?.bind (·[s.x.toNat]?) = some (d.board.cell s) ∧
      response = .ok (.content (d.board.cell s))
  | .write s c => d.OfSquare after response s (d.off s).met <| response = .ok .done ∧ d.Keeps after ∧
      d.board.Becomes after.board (Function.update d.board.cell s c)
  | .remove s => d.OfSquare after response s (d.off s).met <|
      response = .ok (.content (d.board.cell s)) ∧ d.Keeps after ∧
      d.board.Becomes after.board (Function.update d.board.cell s none)
  | .play m => d.OfMove after response m
  | .copy => d.Copied after response
  | .swap => response = .ok .done ∧ after = { d with board := d.copy, copy := d.board }

end Accounts

variable (d : Desk)

theorem accounts_make (p : Piece) :
    d.Accounts (d.handle (.make p)).1 (d.handle (.make p)).2 (.make p) :=
  ⟨⟨d.now, ⟨0, 0⟩⟩, rfl, Nat.le_refl _, Nat.lt_succ_self _, piece_turn _ _, rfl, rfl⟩

theorem accounts_read (s : Square) :
    d.Accounts (d.handle (.read s)).1 (d.handle (.read s)).2 (.read s) := by
  constructor
  · intro inside
    refine ⟨rfl, Board.row_of_inside inside, ?_⟩
    rw [handle, Board.get, if_pos (Board.contains_iff.2 inside)]
    rfl
  · intro outside
    refine ⟨rfl, ?_⟩
    rw [handle, Board.get, if_neg (mt Board.contains_iff.1 outside)]
    rfl

theorem accounts_write (s : Square) (c : Option Ref) :
    d.Accounts (d.handle (.write s c)).1 (d.handle (.write s c)).2 (.write s c) := by
  constructor
  · intro inside
    rw [handle, Board.set, if_pos (Board.contains_iff.2 inside)]
    exact ⟨rfl, ⟨rfl, rfl, rfl⟩, Board.becomes_put inside c⟩
  · intro outside
    rw [handle, Board.set, if_neg (mt Board.contains_iff.1 outside)]
    exact ⟨rfl, rfl⟩

theorem accounts_remove (s : Square) :
    d.Accounts (d.handle (.remove s)).1 (d.handle (.remove s)).2 (.remove s) := by
  constructor
  · intro inside
    rw [handle, Board.remove, if_pos (Board.contains_iff.2 inside)]
    exact ⟨rfl, ⟨rfl, rfl, rfl⟩, Board.becomes_put inside none⟩
  · intro outside
    rw [handle, Board.remove, if_neg (mt Board.contains_iff.1 outside)]
    exact ⟨rfl, rfl⟩

theorem refused_play {m : Move} {fault : Move.Fault} (h : d.board.carry id m = .error fault) :
    d.Refused (d.handle (.play m)).1 (d.handle (.play m)).2 (Error.move fault (some m)).met := by
  rw [handle, h]
  exact ⟨rfl, rfl⟩

theorem moved_play {m : Move} {r : Ref} {board : Board Ref} {captured : Bool}
    (made : d.board.carry id m = .ok (board, r, captured)) :
    d.Moved (d.handle (.play m)).1 (d.handle (.play m)).2 m r captured := by
  rw [handle_play made]
  refine ⟨rfl, ?_, Board.becomes_of_carry made, Board.length_pieces_of_carry made, piece_turn _ _, rfl, rfl⟩
  obtain ⟨-, -, -, -, rfl, -⟩ := Board.carry_eq_ok_iff.1 made
  rw [← Option.isSome_iff_ne_none]

theorem accounts_play (m : Move) :
    d.Accounts (d.handle (.play m)).1 (d.handle (.play m)).2 (.play m) := by
  refine ⟨fun outside => ?_, fun ho hd same => ?_, fun ho hd ne hr => ?_, fun ho hd ne r hr => ?_⟩
  · exact d.refused_play (Board.carry_of_leaves outside)
  · exact d.refused_play (Board.carry_of_stays ho hd same)
  · exact d.refused_play (Board.carry_of_empty ho hd ne hr)
  · obtain ⟨board, captured, made⟩ : ∃ board captured, d.board.carry id m = .ok (board, r, captured) :=
      Board.exists_carry ho hd ne hr
    exact ⟨captured, d.moved_play made⟩

theorem accounts_copy : d.Accounts (d.handle .copy).1 (d.handle .copy).2 .copy where
  answer := rfl
  board := rfl
  kept r old := if_neg (Nat.ne_of_lt old)
  shown := Board.shown_laid d.sight d.now d.piece
  fresh s r hs := by
    rw [Board.made_of_laid hs]
    exact ⟨Nat.le_refl _, Nat.lt_succ_self _⟩
  unshared := Board.unshared_laid d.sight d.now

theorem accounts_handle (request : Request) :
    d.Accounts (d.handle request).1 (d.handle request).2 request := by
  cases request with
  | make p => exact d.accounts_make p
  | read s => exact d.accounts_read s
  | write s c => exact d.accounts_write s c
  | remove s => exact d.accounts_remove s
  | play m => exact d.accounts_play m
  | copy => exact d.accounts_copy
  | swap => exact ⟨rfl, rfl⟩

/-! ### What a board promises -/

section Promises

variable (d after : Desk) (response : Except Error Response)

/-- A move is made if both squares are on the board, differ and the origin is occupied, and is refused
otherwise. It is seen to change two squares. -/
structure MovesAsPromised (m : Move) : Prop where
  refused : ¬ (m.origin.Inside d.board ∧ m.destination.Inside d.board ∧ m.origin ≠ m.destination ∧
    d.board.cell m.origin ≠ none) → after = d ∧ ∃ e, response = .error e
  made : m.origin.Inside d.board → m.destination.Inside d.board → m.origin ≠ m.destination →
    ∀ r, d.board.cell m.origin = some r → ∃ captured, response = .ok (.played captured) ∧
      (captured = true ↔ d.board.cell m.destination ≠ none) ∧
      after.board.cell m.destination = some r ∧
      d.sight.Becomes after.sight (Function.update (Function.update d.sight.cell m.origin none)
        m.destination (some (d.piece r).marked)) ∧
      after.board.pieces.length + captured.toNat = d.board.pieces.length

/-- What is promised of a request, in terms of what is seen of the board. A square off the board is refused
as such. -/
def Promises : Request → Prop
  | .make _ => True
  | .read s => d.OfSquare after response s (d.off s) <| after = d ∧
      ∃ c, response = .ok (.content c) ∧ c.map d.piece = d.sight.cell s
  | .write s c => d.OfSquare after response s (d.off s) <| response = .ok .done ∧
      d.sight.Becomes after.sight (Function.update d.sight.cell s (c.map d.piece))
  | .remove s => d.OfSquare after response s (d.off s) <|
      (∃ c, response = .ok (.content c) ∧ c.map d.piece = d.sight.cell s) ∧
      d.sight.Becomes after.sight (Function.update d.sight.cell s none)
  | .play m => d.MovesAsPromised after response m
  | .copy => response = .ok .done ∧ after.sight = d.sight ∧ after.copy.shown after.piece = d.sight
  | .swap => response = .ok .done ∧ after.sight = d.copy.shown d.piece ∧
      after.copy.shown after.piece = d.sight

/-- The square of the request is on the board or can be written, and the piece that it moves has been marked
before or stands on no third square. -/
def Fair : Request → Prop
  | .read s | .write s _ | .remove s => s.Inside d.board ∨ (d.off s).isWritable
  | .play m => m.origin.Inside d.board → m.destination.Inside d.board → m.origin ≠ m.destination →
      d.MarksOnce m
  | _ => True

end Promises

section

variable {d} {after : Desk} {response : Except Error Response} {s : Square} {m : Move}

theorem met_off_eq_iff : (d.off s).met = d.off s ↔ (d.off s).isWritable := by
  rw [Error.met]
  split
  · rename_i writable
    exact iff_of_true rfl writable
  · rename_i unwritable
    exact iff_of_false (fun same => by cases same) unwritable

theorem ofSquare_iff {granted promised : Prop} (told : d.OfSquare after response s (d.off s).met granted)
    (kept : granted → promised) :
    d.OfSquare after response s (d.off s) promised ↔ s.Inside d.board ∨ (d.off s).isWritable := by
  by_cases inside : s.Inside d.board
  · exact iff_of_true ⟨fun _ => kept (told.1 inside), fun outside => absurd inside outside⟩ (.inl inside)
  · obtain ⟨same, refused⟩ := told.2 inside
    rw [or_iff_right inside, ← met_off_eq_iff]
    constructor
    · intro promise
      exact Except.error.inj (refused.symm.trans (promise.2 inside).2)
    · intro met
      exact ⟨fun h => absurd h inside, fun _ => ⟨same, by rw [refused, met]⟩⟩

theorem sight_eq_of_known {t : Desk} (known : d.Known) (board : t.board = d.board)
    (kept : ∀ r, r.made < d.now → t.piece r = d.piece r) : t.sight = d.sight := by
  rw [sight, sight, board]
  refine Board.eq_of_cell rfl ?_ fun s => ?_
  · rw [Board.shown, Board.shown, Board.height_mapCells, Board.height_mapCells]
  · rw [Board.cell_shown, Board.cell_shown]
    cases hs : d.board.cell s with
    | none => rfl
    | some r => exact congrArg some (kept r (known.board s r hs))

/-- A move that can be made is seen to change two squares exactly if it marks its piece only once. -/
theorem becomes_sight_iff {r : Ref} {board : Board Ref} {captured : Bool}
    (made : d.board.carry id m = .ok (board, r, captured)) :
    d.sight.Becomes (d.handle (.play m)).1.sight (Function.update (Function.update d.sight.cell m.origin none)
      m.destination (some (d.piece r).marked)) ↔ d.MarksOnce m := by
  obtain ⟨-, -, -, hr, -⟩ := Board.carry_eq_ok_iff.1 made
  have origin : d.sight.cell m.origin = some (d.piece r) := by rw [sight, Board.cell_shown, hr, Option.map_some]
  constructor
  · intro becomes q hq
    obtain rfl : r = q := Option.some.inj (hr.symm.trans hq)
    refine Classical.byContradiction fun twice => ?_
    obtain ⟨unmarked, s, hs, elsewhere⟩ : ¬ (d.piece r).hasMoved ∧ ∃ s, d.board.cell s = some r ∧
        ¬ (s = m.origin ∨ s = m.destination) := by simpa using twice
    obtain ⟨ho, hd⟩ := not_or.1 elsewhere
    have seen := becomes.cell s
    rw [cell_sight_play made, if_neg hd, if_neg ho, if_pos hs, Function.update_of_ne hd,
      Function.update_of_ne ho, sight, Board.cell_shown, hs, Option.map_some] at seen
    exact unmarked (by rw [← Option.some.inj seen]; rfl)
  · intro once
    have played : d.sight.play m = .ok ((d.handle (.play m)).1.sight, captured) := by
      rw [sight_play once, made]
      rfl
    exact Board.becomes_of_carry (Board.carry_of_play played origin)

theorem promises_play_iff (m : Move) :
    d.Promises (d.handle (.play m)).1 (d.handle (.play m)).2 (.play m) ↔ d.Fair (.play m) := by
  have told := d.accounts_play m
  by_cases allowed : m.origin.Inside d.board ∧ m.destination.Inside d.board ∧ m.origin ≠ m.destination ∧
      d.board.cell m.origin ≠ none
  · obtain ⟨ho, hd, ne, occupied⟩ := allowed
    obtain ⟨r, hr⟩ := Option.ne_none_iff_exists'.1 occupied
    obtain ⟨board, captured, made⟩ : ∃ board captured, d.board.carry id m = .ok (board, r, captured) :=
      Board.exists_carry ho hd ne hr
    have moved := d.moved_play made
    constructor
    · intro promise _ _ _
      obtain ⟨-, -, -, -, seen, -⟩ := promise.made ho hd ne r hr
      exact (becomes_sight_iff made).1 seen
    · intro fair
      refine ⟨fun refused => absurd ⟨ho, hd, ne, occupied⟩ refused, fun _ _ _ q hq => ?_⟩
      obtain rfl : r = q := Option.some.inj (hr.symm.trans hq)
      refine ⟨captured, moved.answer, moved.capture_iff, ?_, (becomes_sight_iff made).2 (fair ho hd ne),
        moved.pieces⟩
      rw [moved.board.cell, Function.update_self]
  · have refused : (d.handle (.play m)).1 = d ∧ ∃ e, (d.handle (.play m)).2 = .error e := by
      by_cases inside : m.origin.Inside d.board ∧ m.destination.Inside d.board
      · obtain ⟨ho, hd⟩ := inside
        by_cases same : m.origin = m.destination
        · exact ⟨(told.stays ho hd same).1, _, (told.stays ho hd same).2⟩
        · have empty : d.board.cell m.origin = none :=
            Classical.byContradiction fun occupied => allowed ⟨ho, hd, same, occupied⟩
          exact ⟨(told.empty ho hd same empty).1, _, (told.empty ho hd same empty).2⟩
      · exact ⟨(told.leaves inside).1, _, (told.leaves inside).2⟩
    refine iff_of_true ⟨fun _ => refused, fun ho hd ne r hr => ?_⟩ fun ho hd ne r hr => ?_
    · exact absurd ⟨ho, hd, ne, Option.ne_none_iff_exists'.2 ⟨r, hr⟩⟩ allowed
    · exact absurd ⟨ho, hd, ne, Option.ne_none_iff_exists'.2 ⟨r, hr⟩⟩ allowed

end

theorem promises_iff_fair (known : d.Known) (request : Request) :
    d.Promises (d.handle request).1 (d.handle request).2 request ↔ d.Fair request := by
  cases request with
  | make p => exact iff_of_true trivial trivial
  | read s =>
    refine ofSquare_iff (d.accounts_read s) ?_
    rintro ⟨same, -, answer⟩
    exact ⟨same, _, answer, Board.cell_shown.symm⟩
  | write s c =>
    refine ofSquare_iff (d.accounts_write s c) ?_
    rintro ⟨answer, keeps, becomes⟩
    refine ⟨answer, ?_⟩
    rw [sight, sight, keeps.piece]
    exact becomes.shown.congr (Board.map_update s c)
  | remove s =>
    refine ofSquare_iff (d.accounts_remove s) ?_
    rintro ⟨answer, keeps, becomes⟩
    refine ⟨⟨_, answer, Board.cell_shown.symm⟩, ?_⟩
    rw [sight, sight, keeps.piece]
    exact becomes.shown.congr (Board.map_update s none)
  | play m => exact promises_play_iff m
  | copy =>
    have copied := d.accounts_copy
    exact iff_of_true ⟨copied.answer, sight_eq_of_known known copied.board copied.kept, copied.shown⟩ trivial
  | swap => exact iff_of_true ⟨rfl, rfl, rfl⟩ trivial

/-! ### What a run of requests keeps -/

/-- The board and its copy have this size. -/
structure Sized (w h : Nat) (d : Desk) : Prop where
  board : d.board.Sized w h
  copy : d.copy.Sized w h

variable {d} {d₀ : Desk} {w h : Nat}

theorem Sized.of_square {after : Desk} {response : Except Error Response} {s : Square} {refusal : Error}
    {granted : Prop} (sized : d.Sized w h) (told : d.OfSquare after response s refusal granted)
    (of_granted : granted → after.Sized w h) : after.Sized w h := by
  by_cases inside : s.Inside d.board
  · exact of_granted (told.1 inside)
  · rw [(told.2 inside).1]
    exact sized

theorem Sized.copied (sized : d.board.Sized w h) : d.copied.Sized w h where
  board := sized
  copy := by
    refine .of_size sized.width ?_
    rw [Desk.copied, Board.laid, Board.height_mapCells, sight, Board.shown, Board.height_mapCells]
    exact sized.height

theorem Sized.handle (sized : d.Sized w h) (request : Request) : (d.handle request).1.Sized w h := by
  have told := d.accounts_handle request
  cases request with
  | make p =>
    obtain ⟨r, -, -, -, -, board, copy⟩ := told
    exact ⟨board ▸ sized.board, copy ▸ sized.copy⟩
  | read s => exact sized
  | write s c =>
    refine sized.of_square told ?_
    rintro ⟨-, keeps, becomes⟩
    exact ⟨becomes.sized sized.board, keeps.copy ▸ sized.copy⟩
  | remove s =>
    refine sized.of_square told ?_
    rintro ⟨-, keeps, becomes⟩
    exact ⟨becomes.sized sized.board, keeps.copy ▸ sized.copy⟩
  | play m =>
    cases made : d.board.carry id m with
    | error fault =>
      rw [(d.refused_play made).1]
      exact sized
    | ok reply =>
      have moved := d.moved_play made
      exact ⟨moved.board.sized sized.board, moved.copy ▸ sized.copy⟩
  | copy => exact .copied sized.board
  | swap => exact ⟨sized.copy, sized.board⟩

theorem Built.sized (built : d.Built w h) : d.Sized w h := by
  cases built with
  | rows piece now rows => exact .copied (.of_size rfl (List.length_map _))
  | empty piece now made =>
    obtain ⟨-, rfl⟩ : _ ∧ Board.empty _ _ = _ := by simpa [Board.empty?] using made
    refine .copied (.of_size rfl ?_)
    rw [Board.laid, Board.height_mapCells]
    exact List.length_replicate
  | text piece now made =>
    refine .copied (.of_size rfl ?_)
    rw [Board.laid, Board.height_mapCells]

theorem Built.known (built : d.Built w h) : d.Known := by
  cases built with
  | rows piece now rows made =>
    refine .copied fun s r hs => ?_
    obtain ⟨row, hrow, hr⟩ := Board.exists_row_of_cell hs
    obtain ⟨short, hshort, rfl⟩ := List.mem_map.1 hrow
    exact made short hshort r (by simpa [Board.fill] using hr)
  | empty piece now made =>
    refine .copied fun s r hs => ?_
    rw [Board.made_of_laid hs]
    exact Nat.lt_succ_self _
  | text piece now made =>
    refine .copied fun s r hs => ?_
    rw [Board.made_of_laid hs]
    exact Nat.lt_succ_self _

theorem sized_after (reached : d₀.Reached d) (sized : d₀.Sized w h) : d.Sized w h := by
  induction reached with
  | refl => exact sized
  | ask reached has ih => exact ih.handle _

theorem known_after (reached : d₀.Reached d) (known : d₀.Known) : d.Known := by
  induction reached with
  | refl => exact known
  | ask reached has ih => exact ih.handle has

/-- However a board was made and whatever has been asked of it, it has the size that it was made with, and so
have all its rows; the next request is granted or refused as it should be; and it is answered as promised
exactly if it is fair. -/
theorem promises_iff_of_reached (built : d₀.Built w h) (reached : d₀.Reached d) :
    d.Sized w h ∧ ∀ request, d.Accounts (d.handle request).1 (d.handle request).2 request ∧
      (d.Promises (d.handle request).1 (d.handle request).2 request ↔ d.Fair request) :=
  ⟨sized_after reached built.sized, fun request =>
    ⟨d.accounts_handle request, promises_iff_fair d (known_after reached built.known) request⟩⟩

/-- A board made of ragged rows. A square off it is named, the king is read and written to a second square, and
the rook captures it on the first. -/
theorem promises_iff_of_reached_ragged :
    let rook : Ref := ⟨0, ⟨0, 0⟩⟩
    let king : Ref := ⟨0, ⟨1, 2⟩⟩
    let piece : Ref → Piece := fun r => if r = rook then ⟨"r", .white, false⟩ else ⟨"k", .black, false⟩
    let d₀ := start piece 1 (.ofRows [[some rook], [], [none, some king, none]])
    let d₁ := (d₀.handle (.write ⟨-1, 0⟩ (some king))).1
    let d₂ := (d₁.handle (.write ⟨1, 1⟩ (some king))).1
    let d := (d₂.handle (.play ⟨⟨0, 0⟩, ⟨1, 2⟩⟩)).1
    d₀.Built 3 3 ∧ d₀.Reached d ∧
      d.sight.rows = [[none, none, none], [none, some ⟨"k", .black, false⟩, none],
        [none, some ⟨"r", .white, true⟩, none]] ∧
      d.Sized 3 3 ∧ ∀ request, d.Accounts (d.handle request).1 (d.handle request).2 request ∧
        (d.Promises (d.handle request).1 (d.handle request).2 request ↔ d.Fair request) := by
  intro rook king piece d₀ d₁ d₂ d
  have built : d₀.Built 3 3 := .rows piece 1 [[some rook], [], [none, some king, none]] (by simp [rook, king])
  have reached : d₀.Reached d :=
    .ask (.ask (.ask .refl (show king.made < 2 by decide)) (show king.made < 2 by decide)) trivial
  exact ⟨built, reached, by decide, promises_iff_of_reached built reached⟩

/-- What has been read from one square is written to another. Moved from there it is marked on both; and a
square with too long a column is not refused as one off the board. -/
theorem not_promises_shared :
    let rook : Ref := ⟨0, ⟨0, 0⟩⟩
    let d₀ := start (fun _ => ⟨"r", .white, false⟩) 1 (.ofRows [[some rook, none, none]])
    let d := (d₀.handle (.write ⟨1, 0⟩ (some rook))).1
    let far : Square := ⟨(10 ^ Text.digitLimit : Nat), 0⟩
    let m : Move := ⟨⟨1, 0⟩, ⟨2, 0⟩⟩
    d₀.Built 3 1 ∧ (d₀.handle (.read ⟨0, 0⟩)).2 = .ok (.content (some rook)) ∧ d₀.Reached d ∧
      (d.handle (.play m)).1.sight.rows = [[some ⟨"r", .white, true⟩, none, some ⟨"r", .white, true⟩]] ∧
      ¬ d.Promises (d.handle (.play m)).1 (d.handle (.play m)).2 (.play m) ∧
      ¬ d.Promises (d.handle (.read far)).1 (d.handle (.read far)).2 (.read far) := by
  intro rook d₀ d far m
  have built : d₀.Built 3 1 := .rows (fun _ => ⟨"r", .white, false⟩) 1 [[some rook, none, none]] (by simp [rook])
  have reached : d₀.Reached d := .ask .refl (show rook.made < 2 by decide)
  have known := known_after reached built.known
  have twice : ¬ d.Fair (.play m) := by
    intro fair
    have once : d.MarksOnce m := fair ⟨by decide, by decide, by decide, by decide⟩
      ⟨by decide, by decide, by decide, by decide⟩ (by decide)
    rcases once rook (by decide) with marked | alone
    · exact absurd marked (by decide)
    · exact absurd (alone ⟨0, 0⟩ (by decide)) (by decide)
  have unwritten : ¬ d.Fair (.read far) := by
    rintro (inside | writable)
    · exact absurd inside.2.1 (by decide +kernel)
    · have column : Text.isWritable ((10 ^ Text.digitLimit : Nat) : Int) := by
        simp only [Error.isWritable, off, Board.off, Square.isWritable, Bool.and_eq_true] at writable
        exact writable.1.1.1
      exact Nat.lt_irrefl _ (Text.isWritable_iff_lt.1 column)
  exact ⟨built, rfl, reached, by decide, mt (promises_iff_fair d known _).1 twice,
    mt (promises_iff_fair d known _).1 unwritten⟩

end Desk

end VariantChess
