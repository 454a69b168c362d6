import VariantChess.Legal
import VariantChess.Proofs.Generation

/-!
# Check and legality

On a board whose pieces all have entries in a compiled catalogue nothing fails: it can be found out
whether a side is in check, which of its moves are legal and whether it can play. A side is in check if
it is *threatened*, that is if a piece of another side is led onto one of its royal pieces, and a move
is legal if it is geometric and does not leave its side threatened (`exists_legalMoves`).
-/

namespace VariantChess

namespace Catalogue

/-- The pieces of the symbol are royal. -/
def IsRoyal (c : Catalogue) (symbol : String) : Prop :=
  ∃ kind, c.find? symbol = some kind ∧ kind.royal

/-- A piece of another side is led to `d`. -/
def Attacked (c : Catalogue) (b : Board) (color : Color) (d : Square) : Prop :=
  ∃ s enemy, b.cell s = some enemy ∧ enemy.color ≠ color ∧ c.Leads b enemy s d

/-- A royal piece of the side is attacked. -/
def Threatened (c : Catalogue) (b : Board) (color : Color) : Prop :=
  ∃ d piece, b.cell d = some piece ∧ piece.color = color ∧ c.IsRoyal piece.symbol ∧ c.Attacked b color d

variable {c : Catalogue} {b after : Board} {m : Move} {captured : Bool}

theorem Covers.symbol_mem {s : Square} {piece : Piece} (covers : c.Covers b)
    (h : b.cell s = some piece) : piece.symbol ∈ c.symbols := covers _ (Board.mem_pieces.2 h)

/-- A move brings no new symbols. -/
theorem Covers.of_play (covers : c.Covers b) (h : b.play m = .ok (after, captured)) :
    c.Covers after := by
  rintro ⟨s, q⟩ hq
  obtain ⟨-, -, -, piece, hp, -, -⟩ := Board.play_eq_ok_iff.1 h
  rw [Board.mem_pieces, Board.cell_of_play h hp] at hq
  split at hq
  · obtain rfl : _ = q := Option.some.inj hq
    show piece.symbol ∈ c.symbols
    exact covers.symbol_mem hp
  · split at hq
    · cases hq
    · exact covers.symbol_mem hq

end Catalogue

variable {c : Catalogue} {b : Board} {color : Color}

/-! ### Check -/

theorem exists_attacks (compiled : c.Compiled) {p : Square × Piece} (h : p.2.symbol ∈ c.symbols)
    (d : Square) :
    ∃ pass, attacks c b d p = .ok pass ∧ (pass = true ↔ c.Leads b p.2 p.1 d) := by
  obtain ⟨kind, hlookup, hfind⟩ := Catalogue.exists_lookup h
  obtain ⟨targets, ht, hmem⟩ := compiled.exists_targets hfind b p.1
  refine ⟨targets.contains d, by simp [attacks, hlookup, ht, Except.map], ?_⟩
  rw [List.contains_iff_mem, hmem]

theorem exists_isAttacked (compiled : c.Compiled) (covers : c.Covers b) (color : Color) {d : Square}
    (hd : b.contains d) :
    ∃ pass, isAttacked c b color d = .ok pass ∧ (pass = true ↔ c.Attacked b color d) := by
  obtain ⟨pass, hp, hpass⟩ := exists_anyPasses fun p (hp : p ∈ b.enemiesOf color) =>
    exists_attacks (b := b) compiled (covers p (List.mem_filter.1 hp).1) d
  refine ⟨pass, by rw [isAttacked, if_pos hd, hp], hpass.trans ?_⟩
  simp [Board.enemiesOf, Board.mem_pieces, Catalogue.Attacked, and_assoc]

theorem exists_royalSquares (covers : c.Covers b) (color : Color) :
    ∃ royals, royalSquares c b color = .ok royals ∧ ∀ d, d ∈ royals ↔
      ∃ piece, b.cell d = some piece ∧ piece.color = color ∧ c.IsRoyal piece.symbol := by
  have royal : ∀ p ∈ b.piecesOf color, ∃ pass, (c.lookup p.2.symbol).map (·.royal) = .ok pass ∧
      (pass = true ↔ c.IsRoyal p.2.symbol) := by
    intro p hp
    obtain ⟨kind, hlookup, hfind⟩ := Catalogue.exists_lookup (covers.of_piecesOf color p hp)
    exact ⟨kind.royal, by simp [hlookup, Except.map], by simp [Catalogue.IsRoyal, hfind]⟩
  obtain ⟨kept, hk, hmem⟩ := exists_keep royal
  refine ⟨kept.map (·.1), by rw [royalSquares, hk]; rfl, fun d => ?_⟩
  simp [hmem, Board.mem_piecesOf, and_assoc]

theorem exists_isInCheck (compiled : c.Compiled) (covers : c.Covers b) (color : Color) :
    ∃ pass, isInCheck c b color = .ok pass ∧ (pass = true ↔ c.Threatened b color) := by
  obtain ⟨royals, hr, hmem⟩ := exists_royalSquares covers color
  have onBoard : ∀ d ∈ royals, b.contains d := by
    intro d hd
    obtain ⟨piece, hcell, -⟩ := (hmem d).1 hd
    exact Board.contains_of_cell hcell
  obtain ⟨pass, hp, hpass⟩ := exists_anyPasses fun d hd =>
    exists_isAttacked compiled covers color (onBoard d hd)
  refine ⟨pass, by simp [isInCheck, hr, hp], hpass.trans ?_⟩
  simp only [hmem, Catalogue.Threatened]
  constructor
  · rintro ⟨d, ⟨piece, hcell, hcolor, royal⟩, attacked⟩
    exact ⟨d, piece, hcell, hcolor, royal, attacked⟩
  · rintro ⟨d, piece, hcell, hcolor, royal, attacked⟩
    exact ⟨d, ⟨piece, hcell, hcolor, royal⟩, attacked⟩

theorem isInCheck_eq_false_iff (compiled : c.Compiled) (covers : c.Covers b) :
    isInCheck c b color = .ok false ↔ ¬ c.Threatened b color := by
  obtain ⟨pass, hp, hpass⟩ := exists_isInCheck compiled covers color
  rw [hp, ← hpass]
  simp

/-! ### Legal moves -/

theorem exists_isSafe (compiled : c.Compiled) (covers : c.Covers b) (color : Color) (m : Move) :
    ∃ pass, isSafe c b color m = .ok pass ∧ (pass = true ↔
      ∃ after captured, b.play m = .ok (after, captured) ∧ ¬ c.Threatened after color) := by
  cases hplay : b.play m with
  | error fault => exact ⟨false, by simp [isSafe, hplay], by simp⟩
  | ok played =>
    obtain ⟨after, captured⟩ := played
    obtain ⟨pass, hp, hpass⟩ := exists_isInCheck compiled (covers.of_play hplay) color
    exact ⟨!pass, by simp [isSafe, hplay, hp, Except.map], by simp [← hpass]⟩

/-- The legal moves can be found: they are the geometric moves that can be played and do not leave
their side threatened. -/
theorem exists_legalMoves (compiled : c.Compiled) (covers : c.Covers b) (color : Color) :
    ∃ moves, legalMoves c b color none = .of (.ok moves) ∧ ∀ m, m ∈ moves ↔ Geometric c b color m ∧
      ∃ after captured, b.play m = .ok (after, captured) ∧ ¬ c.Threatened after color := by
  have known : ∀ p ∈ b.piecesOf color, p.2.symbol ∈ c.symbols := covers.of_piecesOf color
  obtain ⟨moves, hmoves, hmem⟩ := exists_geometricMoves compiled known
  obtain ⟨legal, hl, hlegal⟩ := exists_keep fun m (_ : m ∈ Move.sort moves) =>
    exists_isSafe compiled covers color m
  refine ⟨legal, ?_, fun m => ?_⟩
  · simp [legalMoves, pseudoLegalMoves_of_geometricMoves hmoves, filterLegal, hl, Report.of, bind]
  · rw [hlegal, Move.mem_sort, hmem]

/-- Legal moves come in the order in which they are generated. -/
theorem sublist_legalMoves {hook : Option ExtraMoves} {moves legal : List Move}
    (h : pseudoLegalMoves c b color hook = .of (.ok moves))
    (h' : (legalMoves c b color hook).result = .ok legal) : legal.Sublist moves := by
  simp only [legalMoves, h, Report.of, bind] at h'
  exact sublist_of_keep h'

/-- A side without legal moves is checkmated or stalemated, as it is in check or not. -/
theorem result_terminalState {moves : List Move} {pass : Bool}
    (h : legalMoves c b color none = .of (.ok moves)) (h' : isInCheck c b color = .ok pass) :
    (terminalState c b color none).result =
      .ok (if moves = [] then if pass then .checkmated else .stalemated else .playable) := by
  cases moves with
  | nil => cases pass <;> simp [terminalState, h, h', Report.of, Report.log, bind, pure]
  | cons m moves => simp [terminalState, h, Report.of, bind, pure]

/-- Whether a side can play can be found out. -/
theorem exists_terminalState (compiled : c.Compiled) (covers : c.Covers b) (color : Color) :
    ∃ state, (terminalState c b color none).result = .ok state := by
  obtain ⟨moves, hmoves, -⟩ := exists_legalMoves compiled covers color
  obtain ⟨pass, hp, -⟩ := exists_isInCheck compiled covers color
  exact ⟨_, result_terminalState hmoves hp⟩

end VariantChess
