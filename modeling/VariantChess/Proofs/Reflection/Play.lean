import VariantChess.Proofs.Perft
import VariantChess.Proofs.Reflection.Rules

/-!
# Play on reflected boards

What can be found out about a side on a board can be found out about the side that it becomes on the
reflected board: its moves and its legal moves, reflected, whether it is in check and whether it can
play (`mirrors`). Since playing commutes with reflecting, the counts of `perft` are the same to every
depth when the turns of the two boards correspond (`reflected_play`).
-/

namespace VariantChess

/-- Reflecting preserves the moves of a side and the state of the side. -/
structure Reflection.Mirrors (r : Reflection) (c : Catalogue) (b : Board) (side : Color) : Prop where
  moves : ∃ moves moves', pseudoLegalMoves c b side none = .of (.ok moves) ∧
    pseudoLegalMoves c (r.board b) (r.color side) none = .of (.ok moves') ∧
    moves'.Perm (moves.map (r.move b))
  legal : ∃ legal legal', legalMoves c b side none = .of (.ok legal) ∧
    legalMoves c (r.board b) (r.color side) none = .of (.ok legal') ∧
    legal'.Perm (legal.map (r.move b))
  check : ∃ check, isInCheck c b side = .ok check ∧
    isInCheck c (r.board b) (r.color side) = .ok check
  state : ∃ state, (terminalState c b side none).result = .ok state ∧
    (terminalState c (r.board b) (r.color side) none).result = .ok state

namespace Reflection

variable {r : Reflection} {c : Catalogue} {b after : Board} {side : Color} {m : Move} {captured : Bool}

/-! ### One position -/

theorem covers_board (covers : c.Covers b) : c.Covers (r.board b) := by
  rintro ⟨s, p⟩ hp
  have known : (r.piece p).symbol ∈ c.symbols :=
    covers.symbol_mem (exists_cell_of_cell_board (Board.mem_pieces.1 hp))
  exact known

/-- No move brings a piece of another side. -/
theorem Suits.of_play (suits : r.Suits b) (h : b.play m = .ok (after, captured)) : r.Suits after := by
  obtain ⟨-, -, -, piece, hp, -, -⟩ := Board.play_eq_ok_iff.1 h
  intro s q hq
  rw [Board.cell_of_play h hp] at hq
  split at hq
  · obtain rfl : _ = q := Option.some.inj hq
    have fits : r.Fits piece.color := suits _ _ hp
    exact fits
  · split at hq
    · cases hq
    · exact suits _ _ hq

/-- Lists without repetition with the moves that correspond to each other. -/
theorem perm_map_move {moves moves' : List Move} (nodup : moves.Nodup) (nodup' : moves'.Nodup)
    (mem : ∀ m, r.move b m ∈ moves' ↔ m ∈ moves) : moves'.Perm (moves.map (r.move b)) := by
  refine (List.perm_ext_iff_of_nodup nodup' (nodup.map move_injective)).2 fun m => ?_
  rw [List.mem_map]
  constructor
  · intro hm
    exact ⟨r.move b m, (mem _).1 (by rwa [move_move]), move_move⟩
  · rintro ⟨m, hm, rfl⟩
    exact (mem m).2 hm

/-- A move is legal if its reflection is. -/
theorem legal_board_iff (suits : r.Suits b) :
    (Geometric c (r.board b) (r.color side) (r.move b m) ∧ ∃ after captured,
      (r.board b).play (r.move b m) = .ok (after, captured) ∧ ¬ c.Threatened after (r.color side)) ↔
    (Geometric c b side m ∧ ∃ after captured,
      b.play m = .ok (after, captured) ∧ ¬ c.Threatened after side) := by
  rw [geometric_board_iff suits]
  refine and_congr_right fun geometric => ?_
  obtain ⟨after, captured, hplay⟩ := geometric.exists_play
  have safe : c.Threatened (r.board after) (r.color side) ↔ c.Threatened after side :=
    threatened_board_iff (suits.of_play hplay)
  simp [hplay, play_board hplay, safe]

theorem mirrors (compiled : c.Compiled) (covers : c.Covers b) (suits : r.Suits b) (side : Color) :
    r.Mirrors c b side := by
  have covers' : c.Covers (r.board b) := covers_board covers
  obtain ⟨found, hmoves, hmem⟩ := exists_pseudoLegalMoves compiled (covers.of_piecesOf side)
  obtain ⟨found', hmoves', hmem'⟩ :=
    exists_pseudoLegalMoves compiled (covers'.of_piecesOf (r.color side))
  have moves_perm : (Move.sort found').Perm ((Move.sort found).map (r.move b)) := by
    refine perm_map_move (Move.nodup_sort found) (Move.nodup_sort found') fun m => ?_
    rw [hmem, hmem', geometric_board_iff suits]
  obtain ⟨legal, hlegal, hlegal_mem⟩ := exists_legalMoves compiled covers side
  obtain ⟨legal', hlegal', hlegal_mem'⟩ := exists_legalMoves compiled covers' (r.color side)
  have legal_perm : legal'.Perm (legal.map (r.move b)) := by
    refine perm_map_move (nodup_legalMoves (congrArg Report.result hlegal))
      (nodup_legalMoves (congrArg Report.result hlegal')) fun m => ?_
    rw [hlegal_mem, hlegal_mem', legal_board_iff suits]
  obtain ⟨check, hcheck, hthreat⟩ := exists_isInCheck compiled covers side
  obtain ⟨check', hcheck', hthreat'⟩ := exists_isInCheck compiled covers' (r.color side)
  obtain rfl : check = check' := by
    rw [Bool.eq_iff_iff, hthreat, hthreat', threatened_board_iff suits]
  refine ⟨⟨_, _, hmoves, hmoves', moves_perm⟩, ⟨legal, legal', hlegal, hlegal', legal_perm⟩,
    ⟨check, hcheck, hcheck'⟩, ?_⟩
  have able : legal' = [] ↔ legal = [] := by
    rw [← List.length_eq_zero_iff, ← List.length_eq_zero_iff, legal_perm.length_eq, List.length_map]
  refine ⟨_, result_terminalState hlegal hcheck, ?_⟩
  rw [result_terminalState hlegal' hcheck']
  simp only [able]

/-! ### Lines of play -/

theorem exists_perft_board (compiled : c.Compiled) {colors colors' : List Color}
    (turns : ∀ side ∈ colors, ∃ next ∈ colors, side.next? colors = some next ∧
      (r.color side).next? colors' = some (r.color next))
    (covers : c.Covers b) (suits : r.Suits b) (mem : side ∈ colors) (depth : Nat) :
    ∃ count, perft c colors depth b side = .ok count ∧
      perft c colors' depth (r.board b) (r.color side) = .ok count := by
  induction depth generalizing b side with
  | zero => exact ⟨1, rfl, rfl⟩
  | succ depth ih =>
    obtain ⟨next, hnext, turn, turn'⟩ := turns side mem
    obtain ⟨legal, hlegal, playable, hcount⟩ := exists_perft_succ compiled covers turn
    obtain ⟨legal', hlegal', -, hcount'⟩ :=
      exists_perft_succ compiled (covers_board (r := r) covers) turn'
    obtain ⟨_, _, h, h', perm⟩ := (mirrors compiled covers suits side).legal
    obtain rfl : legal = _ := by simpa [Report.of] using hlegal.symm.trans h
    obtain rfl : legal' = _ := by simpa [Report.of] using hlegal'.symm.trans h'
    -- a legal move and its reflection lead to a position and its reflection
    have counted : ∀ m ∈ legal, ∃ n,
        countAfter b (fun after => perft c colors depth after next) m = .ok n ∧
        countAfter (r.board b) (fun after => perft c colors' depth after (r.color next))
          (r.move b m) = .ok n := by
      intro m hm
      obtain ⟨after, captured, hplay⟩ := playable m hm
      rw [countAfter, countAfter, hplay, play_board hplay]
      exact ih (covers.of_play hplay) (suits.of_play hplay) hnext
    have counted' : ∀ m ∈ legal.map (r.move b), ∃ n, countAfter (r.board b)
        (fun after => perft c colors' depth after (r.color next)) m = .ok n := by
      intro m' hm'
      obtain ⟨m, hm, rfl⟩ := List.mem_map.1 hm'
      obtain ⟨n, -, hn'⟩ := counted m hm
      exact ⟨n, hn'⟩
    obtain ⟨n, hn, hn'⟩ := exists_total_of_perm counted' perm
    rw [hcount, hcount']
    refine ⟨n, ?_, hn'⟩
    rw [← hn, total_map]
    refine total_congr fun m hm => ?_
    obtain ⟨k, hk, hk'⟩ := counted m hm
    rw [hk, hk']

/-- On a board whose pieces all have entries in a compiled catalogue, reflecting it left to right
preserves the moves and the state of every side and, in any order of turns, its counts. So does
reflecting it top to bottom if there are no yellow pieces, white and black taking turns. -/
theorem reflected_play (compiled : c.Compiled) (covers : c.Covers b) :
    (∀ side, leftRight.Mirrors c b side) ∧
    (∀ colors, ∀ side ∈ colors, ∀ depth, ∃ count,
      perft c colors depth b side = .ok count ∧
      perft c colors depth (leftRight.board b) side = .ok count) ∧
    ((∀ p ∈ b.pieces, p.2.color ≠ .yellow) →
      (∀ side, topBottom.Mirrors c b side) ∧
      ∀ side ∈ [Color.white, .black], ∀ depth, ∃ count,
        perft c [.white, .black] depth b side = .ok count ∧
        perft c [.white, .black] depth (topBottom.board b) (topBottom.color side) = .ok count) := by
  have suits : leftRight.Suits b := fun _ _ _ h => nomatch h
  refine ⟨mirrors compiled covers suits, fun colors side mem depth => ?_, fun yellowless => ?_⟩
  · refine exists_perft_board compiled (fun side hside => ?_) covers suits mem depth
    obtain ⟨next, hnext, turn⟩ := exists_next? hside
    exact ⟨next, hnext, turn, turn⟩
  · have suits : topBottom.Suits b := fun s p hp _ => yellowless (s, p) (Board.mem_pieces.2 hp)
    refine ⟨mirrors compiled covers suits, fun side mem depth => ?_⟩
    exact exists_perft_board compiled (by decide) covers suits mem depth

/-- Two crabs, of which the white one has moved. -/
theorem reflected_play_crab :
    let b := Board.ofRows [[none, none, some ⟨"c", .black, false⟩], [none, none, none],
      [some ⟨"c", .white, true⟩, none, none]]
    crab.Compiled ∧ crab.Covers b ∧ (∀ p ∈ b.pieces, p.2.color ≠ .yellow) ∧
    (∀ side, leftRight.Mirrors crab b side) ∧
    (∀ colors, ∀ side ∈ colors, ∀ depth, ∃ count,
      perft crab colors depth b side = .ok count ∧
      perft crab colors depth (leftRight.board b) side = .ok count) ∧
    (∀ side, topBottom.Mirrors crab b side) ∧
    ∀ side ∈ [Color.white, .black], ∀ depth, ∃ count,
      perft crab [.white, .black] depth b side = .ok count ∧
      perft crab [.white, .black] depth (topBottom.board b) (topBottom.color side) = .ok count := by
  intro b
  have covers : crab.Covers b := by unfold Catalogue.Covers; decide
  have yellowless : ∀ p ∈ b.pieces, p.2.color ≠ .yellow := by decide
  obtain ⟨leftRight, counts, topBottom⟩ := reflected_play compiled_crab covers
  exact ⟨compiled_crab, covers, yellowless, leftRight, counts, topBottom yellowless⟩

end Reflection

end VariantChess
