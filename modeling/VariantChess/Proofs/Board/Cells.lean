import Mathlib.Data.List.Nodup
import VariantChess.Board.Basic

/-!
# Boards cell by cell

`Board.pieces` lists every occupied cell once, in the order of the board, and `Board.put` changes the
cell that it names and no other. A move that can be played empties its origin, puts the moved piece on
its destination and leaves every other cell as it was (`Board.cell_of_play`); so the pieces after it
are the pieces before it less what stood on the two squares, and the moved piece
(`Board.pieces_perm_of_play`).
-/

namespace VariantChess.Board

section

variable {α : Type} {b after : Board α} {s t : Square} {c : Option α} {p : α}

/-! ### Reading and writing -/

theorem contains_iff : b.contains s ↔ 0 ≤ s.x ∧ s.x < b.width ∧ 0 ≤ s.y ∧ s.y < b.height := by
  simp [contains, and_assoc]

theorem exists_natCast_of_contains (h : b.contains s) :
    ∃ x y : Nat, s = ⟨x, y⟩ ∧ x < b.width ∧ y < b.height := by
  obtain ⟨hx, hw, hy, hh⟩ := contains_iff.1 h
  refine ⟨s.x.toNat, s.y.toNat, ?_, by omega, by omega⟩
  rw [Int.toNat_of_nonneg hx, Int.toNat_of_nonneg hy]

theorem contains_of_cell (h : b.cell s = some p) : b.contains s := by
  by_contra hs
  simp [cell, hs] at h

theorem cell_natCast (x y : Nat) : b.cell ⟨x, y⟩ = (b.rows[y]?.getD [])[x]?.getD none := by
  by_cases h : b.contains ⟨x, y⟩
  · simp [cell, h]
  · rw [cell, if_neg h]
    cases hrow : b.rows[y]? with
    | none => simp
    | some row =>
      obtain ⟨hy, rfl⟩ := List.getElem?_eq_some_iff.1 hrow
      have hx : b.width ≤ x := by
        by_contra hx
        exact h (contains_iff.2 ⟨Int.natCast_nonneg x, by simpa using hx, Int.natCast_nonneg y,
          by simpa [height] using hy⟩)
      have hlen : (b.rows[y]).length ≤ x := by rwa [b.length_of_mem _ (List.getElem_mem hy)]
      simp [List.getElem?_eq_none hlen]

@[simp] theorem width_put : (b.put s c).width = b.width := rfl

@[simp] theorem height_put : (b.put s c).height = b.height := by
  simp only [height, put]
  split <;> simp

@[simp] theorem contains_put : (b.put s c).contains t = b.contains t := by
  rw [Bool.eq_iff_iff, contains_iff, contains_iff, width_put, height_put]

theorem cell_put_self (h : b.contains s) : (b.put s c).cell s = c := by
  obtain ⟨x, y, rfl, hx, hy⟩ := exists_natCast_of_contains h
  have hy : y < b.rows.length := hy
  have hrow : b.rows[y].length = b.width := b.length_of_mem _ (List.getElem_mem hy)
  rw [cell_natCast]
  simp [put, h, List.getElem?_eq_getElem hy, hrow, hx]

theorem cell_put_of_ne (h : t ≠ s) : (b.put s c).cell t = b.cell t := by
  by_cases ht : b.contains t
  · by_cases hs : b.contains s
    · obtain ⟨x, y, rfl, -, -⟩ := exists_natCast_of_contains hs
      obtain ⟨x', y', rfl, -, -⟩ := exists_natCast_of_contains ht
      have hne : ¬ (y = y' ∧ x = x') := by rintro ⟨rfl, rfl⟩; exact h rfl
      simp only [cell_natCast, put, hs, ↓reduceIte, Int.toNat_natCast, List.getElem?_modify]
      by_cases hy : y = y'
      · subst hy
        cases b.rows[y]? with
        | none => simp
        | some row => simp [List.getElem?_set_ne fun hx => hne ⟨rfl, hx⟩]
      · simp [hy]
    · simp [put, hs, cell]
  · simp [cell, ht]

/-- Boards of one size that agree on every square are equal. -/
theorem eq_of_cell (width : after.width = b.width) (height : after.height = b.height)
    (cell : ∀ s, after.cell s = b.cell s) : after = b := by
  have rows : after.rows = b.rows := by
    refine List.ext_getElem height fun y hy hy' => ?_
    have hrow : after.rows[y].length = after.width := after.length_of_mem _ (List.getElem_mem hy)
    have hrow' : b.rows[y].length = b.width := b.length_of_mem _ (List.getElem_mem hy')
    refine List.ext_getElem (by rw [hrow, hrow', width]) fun x hx hx' => ?_
    have hcell := cell ⟨x, y⟩
    simpa [cell_natCast, hy, hy', hx, hx'] using hcell
  cases after; cases b
  simp_all

/-! ### The list of pieces -/

theorem mem_pieces : (s, p) ∈ b.pieces ↔ b.cell s = some p := by
  simp only [pieces, List.mem_flatMap, List.mem_filterMap, Prod.exists,
    List.mk_mem_zipIdx_iff_getElem?, Option.map_eq_some_iff, Prod.mk.injEq]
  constructor
  · rintro ⟨row, y, hrow, c, x, hc, q, rfl, rfl, rfl⟩
    simp [cell_natCast, hrow, hc]
  · intro h
    obtain ⟨x, y, rfl, hx, hy⟩ := exists_natCast_of_contains (contains_of_cell h)
    have hy : y < b.rows.length := hy
    have hx' : x < b.rows[y].length := by rwa [b.length_of_mem _ (List.getElem_mem hy)]
    refine ⟨b.rows[y], y, List.getElem?_eq_getElem hy, some p, x, ?_, p, rfl, rfl, rfl⟩
    simpa [cell_natCast, List.getElem?_eq_getElem hy, List.getElem?_eq_getElem hx'] using h

/-- The pieces are listed row by row, and from left to right in a row. -/
theorem pairwise_pieces :
    b.pieces.Pairwise fun p q => p.1.y < q.1.y ∨ p.1.y = q.1.y ∧ p.1.x < q.1.x := by
  have hidx : ∀ {α : Type} (l : List α), l.zipIdx.Pairwise fun p q => p.2 < q.2 := fun l => by
    rw [← List.pairwise_map (R := (· < ·)), List.zipIdx_map_snd]
    exact List.pairwise_lt_range'
  rw [pieces, List.pairwise_flatMap]
  constructor
  · rintro ⟨row, y⟩ -
    refine List.pairwise_filterMap.2 ((hidx row).imp ?_)
    rintro ⟨c, x⟩ ⟨c', x'⟩ hlt p hp q hq
    obtain ⟨_, -, rfl⟩ := Option.map_eq_some_iff.1 hp
    obtain ⟨_, -, rfl⟩ := Option.map_eq_some_iff.1 hq
    exact .inr ⟨rfl, by simpa using hlt⟩
  · refine (hidx b.rows).imp ?_
    rintro ⟨row, y⟩ ⟨row', y'⟩ hlt p hp q hq
    obtain ⟨⟨c, x⟩, -, hp⟩ := List.mem_filterMap.1 hp
    obtain ⟨⟨c', x'⟩, -, hq⟩ := List.mem_filterMap.1 hq
    obtain ⟨_, -, rfl⟩ := Option.map_eq_some_iff.1 hp
    obtain ⟨_, -, rfl⟩ := Option.map_eq_some_iff.1 hq
    exact .inl (by simpa using hlt)

theorem nodup_pieces : b.pieces.Nodup :=
  pairwise_pieces.imp fun h => by rintro rfl; omega

/-! ### Moves -/

variable {mark : α → α} {m : Move} {captured : Bool}

theorem carry_eq_ok_iff : b.carry mark m = .ok (after, p, captured) ↔
    b.contains m.origin ∧ b.contains m.destination ∧ m.origin ≠ m.destination ∧
      b.cell m.origin = some p ∧ captured = (b.cell m.destination).isSome ∧
        after = (b.put m.origin none).put m.destination (some (mark p)) := by
  rw [carry]
  by_cases ho : b.contains m.origin
  · by_cases hd : b.contains m.destination
    · by_cases hne : m.origin = m.destination
      · simp [hd, hne]
      · cases hp : b.cell m.origin with
        | none => simp [ho, hd, hne]
        | some q =>
          simp only [ho, hd, hne, Bool.and_self, Bool.not_true, Bool.false_eq_true, if_false, ne_eq,
            not_false_eq_true, true_and, Except.ok.injEq, Prod.mk.injEq, Option.some.injEq]
          constructor
          · rintro ⟨rfl, rfl, rfl⟩
            exact ⟨rfl, rfl, rfl⟩
          · rintro ⟨rfl, rfl, rfl⟩
            exact ⟨rfl, rfl, rfl⟩
    · simp [hd]
  · simp [ho]

section
variable (h : b.carry mark m = .ok (after, p, captured))
include h

theorem width_of_carry : after.width = b.width := by
  obtain ⟨-, -, -, -, -, rfl⟩ := carry_eq_ok_iff.1 h
  rfl

theorem height_of_carry : after.height = b.height := by
  obtain ⟨-, -, -, -, -, rfl⟩ := carry_eq_ok_iff.1 h
  simp

/-- What stands where after a move. -/
theorem cell_of_carry (s : Square) : after.cell s = if s = m.destination then some (mark p)
    else if s = m.origin then none else b.cell s := by
  obtain ⟨ho, hd, hne, hp, -, rfl⟩ := carry_eq_ok_iff.1 h
  by_cases hsd : s = m.destination
  · subst hsd; simp [cell_put_self, hd]
  · rw [cell_put_of_ne hsd, if_neg hsd]
    by_cases hso : s = m.origin
    · subst hso; simp [cell_put_self, ho]
    · rw [cell_put_of_ne hso, if_neg hso]

end

/-- The pieces that stand on neither square of a move. -/
def bystanders (b : Board α) (m : Move) : List (Square × α) :=
  b.pieces.filter fun q => q.1 ≠ m.origin ∧ q.1 ≠ m.destination

theorem mem_bystanders :
    (s, p) ∈ b.bystanders m ↔ b.cell s = some p ∧ s ≠ m.origin ∧ s ≠ m.destination := by
  simp [bystanders, mem_pieces]

/-- The pieces before a move: the one that moves, the one that is captured, if any, and the rest. -/
theorem pieces_perm (hne : m.origin ≠ m.destination) (hp : b.cell m.origin = some p) :
    b.pieces.Perm ((m.origin, p) ::
      ((b.cell m.destination).toList.map (m.destination, ·) ++ b.bystanders m)) := by
  refine (List.perm_ext_iff_of_nodup nodup_pieces ?_).2 ?_
  · refine List.nodup_cons.2 ⟨?_, List.nodup_append'.2 ⟨?_, nodup_pieces.filter _, ?_⟩⟩
    · simp [mem_bystanders, hne, hne.symm]
    · cases b.cell m.destination <;> simp
    · intro q hq hq'
      obtain ⟨r, -, rfl⟩ := List.mem_map.1 hq
      simp [mem_bystanders] at hq'
  · rintro ⟨s, q⟩
    simp only [mem_pieces, List.mem_cons, List.mem_append, List.mem_map, Option.mem_toList,
      Prod.mk.injEq, mem_bystanders]
    constructor
    · intro hq
      by_cases hso : s = m.origin
      · subst hso; exact .inl ⟨rfl, by simpa [hp] using hq.symm⟩
      · by_cases hsd : s = m.destination
        · subst hsd; exact .inr (.inl ⟨q, hq, rfl, rfl⟩)
        · exact .inr (.inr ⟨hq, hso, hsd⟩)
    · rintro (⟨rfl, rfl⟩ | ⟨_, hq, rfl, rfl⟩ | ⟨hq, -⟩)
      exacts [hp, hq, hq]

/-- The pieces after a move: the one that has moved and the bystanders. -/
theorem pieces_perm_of_carry (h : b.carry mark m = .ok (after, p, captured)) :
    after.pieces.Perm ((m.destination, mark p) :: b.bystanders m) := by
  refine (List.perm_ext_iff_of_nodup nodup_pieces ?_).2 ?_
  · exact List.nodup_cons.2 ⟨by simp [mem_bystanders], nodup_pieces.filter _⟩
  · rintro ⟨s, q⟩
    rw [mem_pieces, cell_of_carry h, List.mem_cons, mem_bystanders, Prod.mk.injEq]
    by_cases hsd : s = m.destination
    · simp [hsd, eq_comm]
    · by_cases hso : s = m.origin
      · subst hso; simp [hsd]
      · simp [hsd, hso]

/-- A move takes a piece off the board exactly if there is one on the destination. -/
theorem length_pieces_of_carry (h : b.carry mark m = .ok (after, p, captured)) :
    after.pieces.length + captured.toNat = b.pieces.length := by
  obtain ⟨-, -, hne, hp, rfl, -⟩ := carry_eq_ok_iff.1 h
  rw [(pieces_perm_of_carry h).length_eq, (pieces_perm hne hp).length_eq]
  cases b.cell m.destination <;> simp [Nat.add_comm]

end

variable {b after : Board} {s : Square} {p : Piece} {m : Move} {captured : Bool}

theorem mem_piecesOf {color : Color} :
    (s, p) ∈ b.piecesOf color ↔ b.cell s = some p ∧ p.color = color := by
  simp [piecesOf, mem_pieces]

theorem exists_carry_of_play (h : b.play m = .ok (after, captured)) :
    ∃ p, b.carry Piece.marked m = .ok (after, p, captured) := by
  rw [play] at h
  cases made : b.carry Piece.marked m with
  | error fault => rw [made] at h; cases h
  | ok reply =>
    obtain ⟨board, p, occupied⟩ := reply
    rw [made] at h
    cases h
    exact ⟨p, rfl⟩

theorem play_eq_ok_iff : b.play m = .ok (after, captured) ↔
    b.contains m.origin ∧ b.contains m.destination ∧ m.origin ≠ m.destination ∧
      ∃ p, b.cell m.origin = some p ∧ captured = (b.cell m.destination).isSome ∧
        after = (b.put m.origin none).put m.destination (some { p with hasMoved := true }) := by
  constructor
  · intro h
    obtain ⟨p, made⟩ := exists_carry_of_play h
    obtain ⟨ho, hd, hne, told⟩ := carry_eq_ok_iff.1 made
    exact ⟨ho, hd, hne, p, told⟩
  · rintro ⟨ho, hd, hne, p, told⟩
    rw [play, carry_eq_ok_iff.2 ⟨ho, hd, hne, told⟩]
    rfl

theorem width_of_play (h : b.play m = .ok (after, captured)) : after.width = b.width := by
  obtain ⟨p, made⟩ := exists_carry_of_play h
  exact width_of_carry made

theorem height_of_play (h : b.play m = .ok (after, captured)) : after.height = b.height := by
  obtain ⟨p, made⟩ := exists_carry_of_play h
  exact height_of_carry made

theorem carry_of_play (h : b.play m = .ok (after, captured)) (hp : b.cell m.origin = some p) :
    b.carry Piece.marked m = .ok (after, p, captured) := by
  obtain ⟨q, made⟩ := exists_carry_of_play h
  obtain ⟨-, -, -, hq, -⟩ := carry_eq_ok_iff.1 made
  obtain rfl : p = q := Option.some.inj (hp.symm.trans hq)
  exact made

/-- What stands where after a move. -/
theorem cell_of_play (h : b.play m = .ok (after, captured)) (hp : b.cell m.origin = some p)
    (s : Square) : after.cell s = if s = m.destination then some { p with hasMoved := true }
      else if s = m.origin then none else b.cell s :=
  cell_of_carry (carry_of_play h hp) s

/-- The pieces after a move: the one that has moved and the bystanders. -/
theorem pieces_perm_of_play (h : b.play m = .ok (after, captured)) (hp : b.cell m.origin = some p) :
    after.pieces.Perm ((m.destination, { p with hasMoved := true }) :: b.bystanders m) :=
  pieces_perm_of_carry (carry_of_play h hp)

end VariantChess.Board
