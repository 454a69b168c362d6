import VariantChess.Board.Desk
import VariantChess.Proofs.Board.Cells

/-!
# Pieces on more than one square

What can be seen of a board is a board of pieces, and the pieces that are made for a board show it again
(`Board.shown_laid`). A move marks its piece wherever it stands, so it is seen to change two squares only, as
`Board.play` has it, if the piece is on no third square or has been marked before (`Desk.sight_play`). No
piece comes to stand twice except by a request to write it to a second square (`Desk.Apart.handle`); a copy
in particular shares no piece with its board. So where nothing is written twice, boards of values will do
(`Desk.Apart.sight_play`).
-/

namespace VariantChess

namespace Board

section

variable {α β : Type} {b : Board α} {f : Square → α → β} {s t : Square}

theorem cell_of_not_contains (h : ¬ b.contains s) : b.cell s = none := by rw [cell, if_neg h]

theorem cell_put (b : Board α) (s t : Square) (c : Option α) :
    (b.put s c).cell t = if t = s ∧ b.contains s then c else b.cell t := by
  by_cases same : t = s
  · subst same
    by_cases h : b.contains t
    · rw [cell_put_self h, if_pos ⟨rfl, h⟩]
    · rw [cell_of_not_contains (by rwa [contains_put]), if_neg (fun told => h told.2),
        cell_of_not_contains h]
  · rw [cell_put_of_ne same, if_neg (fun told => same told.1)]

theorem put_put_self (b : Board α) (s : Square) (c c' : Option α) : (b.put s c).put s c' = b.put s c' := by
  refine eq_of_cell rfl (by rw [height_put, height_put, height_put]) fun t => ?_
  rw [cell_put, cell_put, cell_put, contains_put]
  by_cases told : t = s ∧ b.contains s
  · rw [if_pos told, if_pos told]
  · rw [if_neg told, if_neg told, if_neg told]

@[simp] theorem width_mapCells : (b.mapCells f).width = b.width := rfl

@[simp] theorem height_mapCells : (b.mapCells f).height = b.height := by simp [height, mapCells]

@[simp] theorem contains_mapCells : (b.mapCells f).contains s = b.contains s := by
  rw [Bool.eq_iff_iff, contains_iff, contains_iff, width_mapCells, height_mapCells]

@[simp] theorem cell_mapCells : (b.mapCells f).cell s = (b.cell s).map (f s) := by
  by_cases h : b.contains s
  · obtain ⟨x, y, rfl, hx, hy⟩ := exists_natCast_of_contains h
    have hy : y < b.rows.length := hy
    have hx : x < b.rows[y].length := by rwa [b.length_of_mem _ (List.getElem_mem hy)]
    simp [cell_natCast, mapCells, hy, hx]
  · rw [cell_of_not_contains h, cell_of_not_contains (by rwa [contains_mapCells]), Option.map_none]

end

/-- No piece stands on two squares. -/
def Unshared (b : Board Ref) : Prop := ∀ s t r, b.cell s = some r → b.cell t = some r → s = t

variable {b : Board Ref} {piece : Ref → Piece} {s : Square} {m : Move}

theorem cell_shown : (b.shown piece).cell s = (b.cell s).map piece := cell_mapCells

theorem shown_put (c : Option Ref) : (b.put s c).shown piece = (b.shown piece).put s (c.map piece) := by
  refine eq_of_cell rfl ?_ fun t => ?_
  · rw [shown, height_mapCells, height_put, height_put, shown, height_mapCells]
  · rw [cell_shown, cell_put, cell_put, cell_shown]
    by_cases told : t = s ∧ b.contains s
    · rw [if_pos told, if_pos (by rwa [shown, contains_mapCells])]
    · rw [if_neg told, if_neg (by rwa [shown, contains_mapCells])]

theorem cell_laid {b : Board} {now : Nat} : (b.laid now).cell s = (b.cell s).map fun _ => ⟨now, s⟩ :=
  cell_mapCells

theorem made_of_laid {b : Board} {now : Nat} {r : Ref} (h : (b.laid now).cell s = some r) :
    r = ⟨now, s⟩ := by
  rw [cell_laid, Option.map_eq_some_iff] at h
  obtain ⟨p, -, rfl⟩ := h
  rfl

theorem unshared_laid (b : Board) (now : Nat) : (b.laid now).Unshared := by
  intro s t r hs ht
  exact congrArg Ref.place ((made_of_laid hs).symm.trans (made_of_laid ht))

/-- The pieces that are made for a board show it. -/
theorem shown_laid (b : Board) (now : Nat) (piece : Ref → Piece) :
    (b.laid now).shown (piecesFor b now piece) = b := by
  refine eq_of_cell rfl ?_ fun s => ?_
  · rw [shown, laid, height_mapCells, height_mapCells]
  · rw [cell_shown, cell_laid, Option.map_map]
    cases h : b.cell s with
    | none => rfl
    | some p => simp [piecesFor, h]

/-- A move that cannot be made with references cannot be made with what they show, and conversely. -/
theorem carry_shown (mark : Piece → Piece) : (b.shown piece).carry mark m =
    (b.carry id m).map fun (after, r, captured) =>
      ((after.shown piece).put m.destination (some (mark (piece r))), piece r, captured) := by
  cases made : b.carry id m with
  | error fault =>
    rw [carry] at made ⊢
    rw [cell_shown, cell_shown, shown, contains_mapCells, contains_mapCells]
    split at made
    · rename_i leaves
      rw [if_pos leaves]
      cases made
      rfl
    · rename_i stays
      rw [if_neg stays]
      split at made
      · rename_i same
        rw [if_pos same]
        cases made
        rfl
      · rename_i ne
        rw [if_neg ne]
        split at made
        · rename_i empty
          rw [empty]
          cases made
          rfl
        · cases made
  | ok reply =>
    obtain ⟨after, r, captured⟩ := reply
    obtain ⟨ho, hd, hne, hr, occupied, rfl⟩ := carry_eq_ok_iff.1 made
    refine carry_eq_ok_iff.2 ⟨?_, ?_, hne, ?_, ?_, ?_⟩
    · rwa [shown, contains_mapCells]
    · rwa [shown, contains_mapCells]
    · rw [cell_shown, hr, Option.map_some]
    · rw [cell_shown, Option.isSome_map, occupied]
    · rw [shown_put, shown_put, put_put_self, Option.map_none]

end Board

theorem Piece.marked_of_hasMoved {p : Piece} (moved : p.hasMoved) : p.marked = p := by
  rw [marked, ← moved]

namespace Desk

variable {d : Desk} {m : Move} {r : Ref} {captured : Bool} {after : Board Ref}

/-- Every piece on the boards has been made. -/
structure Known (d : Desk) : Prop where
  board : ∀ s r, d.board.cell s = some r → r.made < d.now
  copy : ∀ s r, d.copy.cell s = some r → r.made < d.now

/-- No piece stands on two squares of the board and its copy. -/
structure Apart (d : Desk) : Prop where
  board : d.board.Unshared
  copy : d.copy.Unshared
  between : ∀ s t r, d.board.cell s = some r → d.copy.cell t ≠ some r

/-- The piece that moves has been marked before, or stands on no third square of the board. -/
def MarksOnce (d : Desk) (m : Move) : Prop := ∀ r, d.board.cell m.origin = some r →
  (d.piece r).hasMoved ∨ ∀ s, d.board.cell s = some r → s = m.origin ∨ s = m.destination

theorem Apart.marksOnce (apart : d.Apart) (m : Move) : d.MarksOnce m :=
  fun r hr => .inr fun s hs => .inl (apart.board s m.origin r hs hr)

@[simp] theorem piece_turn (r : Ref) (p : Piece) : (d.turn r p).piece = Function.update d.piece r p := by
  funext r'
  rw [Function.update_apply]
  rfl

theorem handle_play (made : d.board.carry id m = .ok (after, r, captured)) : d.handle (.play m) =
    ({ d.turn r (d.piece r).marked with board := after }, .ok (.played captured)) := by
  rw [handle, made]

theorem sight_handle_play (made : d.board.carry id m = .ok (after, r, captured)) :
    (d.handle (.play m)).1.sight =
      after.shown (Function.update d.piece r (d.piece r).marked) := by
  rw [handle_play made, sight, piece_turn]

/-- What can be seen after a move. -/
theorem cell_sight_play (made : d.board.carry id m = .ok (after, r, captured)) (s : Square) :
    (d.handle (.play m)).1.sight.cell s =
      if s = m.destination then some (d.piece r).marked
      else if s = m.origin then none
      else if d.board.cell s = some r then some (d.piece r).marked
      else d.sight.cell s := by
  rw [sight_handle_play made, Board.cell_shown, Board.cell_of_carry made, sight, Board.cell_shown]
  by_cases hd : s = m.destination
  · rw [if_pos hd, if_pos hd, Option.map_some, id, Function.update_self]
  · rw [if_neg hd, if_neg hd]
    by_cases ho : s = m.origin
    · rw [if_pos ho, if_pos ho, Option.map_none]
    · rw [if_neg ho, if_neg ho]
      cases hs : d.board.cell s with
      | none => rfl
      | some q =>
        by_cases same : q = r
        · rw [same, if_pos rfl, Option.map_some, Function.update_self]
        · rw [if_neg (by simpa using same), Option.map_some, Option.map_some, Function.update_of_ne same]

/-- A move that marks its piece only where it goes is seen to be played. -/
theorem sight_play (once : d.MarksOnce m) : d.sight.play m =
    (d.board.carry id m).map fun (_, _, captured) => ((d.handle (.play m)).1.sight, captured) := by
  rw [Board.play, sight, Board.carry_shown]
  cases made : d.board.carry id m with
  | error fault => rfl
  | ok reply =>
    obtain ⟨after, r, captured⟩ := reply
    obtain ⟨-, hd, -, hr, -, placed⟩ := Board.carry_eq_ok_iff.1 made
    have stays : (after.shown d.piece).contains m.destination := by
      rwa [Board.shown, Board.contains_mapCells, placed, Board.contains_put, Board.contains_put]
    have cells := cell_sight_play made
    have seen : (after.shown d.piece).put m.destination (some (d.piece r).marked) =
        (d.handle (.play m)).1.sight := by
      refine Board.eq_of_cell (by rw [sight_handle_play made]; rfl) ?_ fun s => ?_
      · rw [sight_handle_play made, Board.height_put, Board.shown, Board.shown, Board.height_mapCells,
          Board.height_mapCells]
      · rw [cells, Board.cell_put, Board.cell_shown, Board.cell_of_carry made]
        by_cases hs : s = m.destination
        · rw [if_pos ⟨hs, stays⟩, if_pos hs]
        · rw [if_neg hs, if_neg hs, if_neg (fun told => hs told.1)]
          by_cases ho : s = m.origin
          · rw [if_pos ho, if_pos ho, Option.map_none]
          · rw [if_neg ho, if_neg ho]
            split
            · rename_i stands
              rw [stands, Option.map_some]
              rcases once r hr with moved | nowhere
              · exact congrArg some (Piece.marked_of_hasMoved moved).symm
              · rcases nowhere s stands with rfl | rfl
                · exact absurd rfl ho
                · exact absurd rfl hs
            · exact Board.cell_shown.symm
    exact congrArg (fun b => Except.ok (b, captured)) seen

/-- While the pieces stand on one square each, a desk and the board that can be seen of it play alike. -/
theorem Apart.sight_play (apart : d.Apart) (m : Move) : d.sight.play m =
    (d.board.carry id m).map fun (_, _, captured) => ((d.handle (.play m)).1.sight, captured) :=
  Desk.sight_play (apart.marksOnce m)

/-! ### What requests keep -/

/-- The request names a piece only if it has been made. -/
def Has (d : Desk) : Request → Prop
  | .write _ (some r) => r.made < d.now
  | _ => True

/-- The request does not write a piece that stands on another square. -/
def Spares (d : Desk) : Request → Prop
  | .write s (some r) => (∀ t, d.board.cell t = some r → t = s) ∧ ∀ t, d.copy.cell t ≠ some r
  | _ => True

theorem cell_of_set {b after : Board Ref} {s t : Square} {c : Option Ref} (h : b.set s c = .ok after) :
    after.cell t = if t = s then c else b.cell t := by
  rw [Board.set] at h
  split at h
  · rename_i inside
    cases h
    by_cases same : t = s
    · rw [if_pos same, same, Board.cell_put_self inside]
    · rw [if_neg same, Board.cell_put_of_ne same]
  · cases h

theorem cell_of_remove {b after : Board Ref} {s t : Square} {c : Option Ref}
    (h : b.remove s = .ok (c, after)) : after.cell t = if t = s then none else b.cell t := by
  refine cell_of_set (h := ?_)
  rw [Board.remove] at h
  rw [Board.set]
  split at h
  · rename_i inside
    cases h
    rw [if_pos inside]
  · cases h

theorem Known.copied (made : ∀ s r, d.board.cell s = some r → r.made < d.now) : d.copied.Known where
  board s r hs := Nat.lt_succ_of_lt (made s r hs)
  copy s r hs := by
    rw [Board.made_of_laid hs]
    exact Nat.lt_succ_self d.now

theorem Known.handle (known : d.Known) {request : Request} (has : d.Has request) :
    (d.handle request).1.Known := by
  cases request with
  | make p =>
    exact ⟨fun s r hs => Nat.lt_succ_of_lt (known.board s r hs),
      fun s r hs => Nat.lt_succ_of_lt (known.copy s r hs)⟩
  | read s => exact known
  | write s c =>
    rw [Desk.handle]
    split
    · exact known
    · rename_i after written
      refine ⟨fun t r ht => ?_, known.copy⟩
      rw [cell_of_set written] at ht
      split at ht
      · subst ht
        exact has
      · exact known.board t r ht
  | remove s =>
    rw [Desk.handle]
    split
    · exact known
    · rename_i c after removed
      refine ⟨fun t r ht => ?_, known.copy⟩
      rw [cell_of_remove removed] at ht
      split at ht
      · cases ht
      · exact known.board t r ht
  | play m =>
    rw [Desk.handle]
    split
    · exact known
    · rename_i after r captured made
      obtain ⟨-, -, -, hr, -⟩ := Board.carry_eq_ok_iff.1 made
      refine ⟨fun t q ht => ?_, known.copy⟩
      rw [Board.cell_of_carry made] at ht
      split at ht
      · cases ht
        exact known.board m.origin r hr
      · split at ht
        · cases ht
        · exact known.board t q ht
  | copy => exact .copied known.board
  | swap => exact ⟨known.copy, known.board⟩

theorem Apart.copied (unshared : d.board.Unshared) (made : ∀ s r, d.board.cell s = some r → r.made < d.now) :
    d.copied.Apart where
  board := unshared
  copy := Board.unshared_laid d.sight d.now
  between s t r hs ht := by
    have old := made s r hs
    rw [Board.made_of_laid ht] at old
    exact Nat.lt_irrefl _ old

theorem Apart.of_subset (apart : d.Apart) (stood : ∀ t q, after.cell t = some q → d.board.cell t = some q) :
    Apart { d with board := after } where
  board t u q ht hu := apart.board t u q (stood t q ht) (stood u q hu)
  copy := apart.copy
  between t u q ht := apart.between t u q (stood t q ht)

/-- One piece is put where it stands alone. -/
theorem Apart.of_alone (apart : d.Apart) (s : Square) (absent : ∀ t, d.copy.cell t ≠ some r)
    (stood : ∀ t q, after.cell t = some q → t = s ∧ q = r ∨ d.board.cell t = some q ∧ q ≠ r) :
    Apart { d with board := after } where
  board t u q ht hu := by
    rcases stood t q ht with ⟨rfl, rfl⟩ | ⟨stays, other⟩
    · rcases stood u q hu with ⟨rfl, -⟩ | ⟨-, other⟩
      · rfl
      · exact absurd rfl other
    · rcases stood u q hu with ⟨-, rfl⟩ | ⟨stays', -⟩
      · exact absurd rfl other
      · exact apart.board t u q stays stays'
  copy := apart.copy
  between t u q ht := by
    rcases stood t q ht with ⟨-, rfl⟩ | ⟨stays, -⟩
    · exact absent u
    · exact apart.between t u q stays

/-- What is written stands alone, and what is moved leaves its square. -/
theorem Apart.handle (apart : d.Apart) (known : d.Known) {request : Request} (spares : d.Spares request) :
    (d.handle request).1.Apart := by
  cases request with
  | make p => exact ⟨apart.board, apart.copy, apart.between⟩
  | read s => exact apart
  | write s c =>
    rw [Desk.handle]
    split
    · exact apart
    · rename_i after written
      cases c with
      | none =>
        refine apart.of_subset fun t q ht => ?_
        rw [cell_of_set written] at ht
        split at ht
        · cases ht
        · exact ht
      | some r =>
        refine apart.of_alone s spares.2 fun t q ht => ?_
        rw [cell_of_set written] at ht
        split at ht
        · exact .inl ⟨‹_›, (Option.some.inj ht).symm⟩
        · refine .inr ⟨ht, ?_⟩
          rintro rfl
          exact absurd (spares.1 t ht) ‹_›
  | remove s =>
    rw [Desk.handle]
    split
    · exact apart
    · rename_i c after removed
      refine apart.of_subset fun t q ht => ?_
      rw [cell_of_remove removed] at ht
      split at ht
      · cases ht
      · exact ht
  | play m =>
    rw [Desk.handle]
    split
    · exact apart
    · rename_i after r captured made
      obtain ⟨-, -, -, hr, -⟩ := Board.carry_eq_ok_iff.1 made
      have stood : ∀ t q, after.cell t = some q →
          t = m.destination ∧ q = r ∨ d.board.cell t = some q ∧ q ≠ r := by
        intro t q ht
        rw [Board.cell_of_carry made] at ht
        split at ht
        · exact .inl ⟨‹_›, (Option.some.inj ht).symm⟩
        · split at ht
          · cases ht
          · refine .inr ⟨ht, ?_⟩
            rintro rfl
            exact absurd (apart.board t m.origin q ht hr) ‹_›
      obtain ⟨board, copy, between⟩ :=
        apart.of_alone m.destination (fun t => apart.between m.origin t r hr) stood
      exact ⟨board, copy, between⟩
  | copy => exact .copied apart.board known.board
  | swap => exact ⟨apart.copy, apart.board, fun s t r hs ht => apart.between t s r ht hs⟩

end Desk

end VariantChess
