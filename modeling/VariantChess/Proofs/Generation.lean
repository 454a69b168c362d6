import VariantChess.PseudoLegal
import VariantChess.Proofs.Catalogue
import VariantChess.Proofs.Sorted

/-!
# What is generated

Without a hook the pseudo-legal moves of a side are its *geometric* moves: those of a piece of the side
to another square to which one of the rules of its entry leads it. None is missing, nothing else is
generated, and they come in strictly increasing order (`pseudoLegalMoves_exact`).
-/

namespace VariantChess

/-- A piece of the side stands on the origin, and a rule of its entry leads it to the destination. -/
def Geometric (c : Catalogue) (b : Board) (color : Color) (m : Move) : Prop :=
  ∃ piece, b.cell m.origin = some piece ∧ piece.color = color ∧
    c.Leads b piece m.origin m.destination

variable {c : Catalogue} {b : Board} {color : Color} {m : Move}

theorem Geometric.admits (h : Geometric c b color m) : b.Admits color m.destination := by
  obtain ⟨piece, -, rfl, leads⟩ := h
  exact leads.admits

/-- A geometric move can always be played. -/
theorem Geometric.exists_play (h : Geometric c b color m) :
    ∃ after captured, b.play m = .ok (after, captured) := by
  obtain ⟨piece, hp, -, leads⟩ := h
  obtain ⟨kind, rule, -, -, attained, away⟩ := leads
  exact ⟨_, _, Board.play_eq_ok_iff.2 ⟨Board.contains_of_cell hp, attained.admits.1, away.symm,
    piece, hp, rfl, rfl⟩⟩

theorem exists_geometricMoves (compiled : c.Compiled)
    (known : ∀ p ∈ b.piecesOf color, p.2.symbol ∈ c.symbols) :
    ∃ moves, geometricMoves c b color = .ok moves ∧ ∀ m, m ∈ moves ↔ Geometric c b color m := by
  have contributed : ∃ moves, geometricMoves c b color = .ok moves ∧
      ∀ m, m ∈ moves ↔ ∃ p ∈ b.piecesOf color, m.origin = p.1 ∧ c.Leads b p.2 p.1 m.destination := by
    refine exists_gather fun p hp => ?_
    obtain ⟨kind, hlookup, hfind⟩ := Catalogue.exists_lookup (known p hp)
    obtain ⟨targets, ht, hmem⟩ := compiled.exists_targets hfind b p.1
    refine ⟨targets.map (Move.mk p.1), by simp [hlookup, PieceKind.moves, ht, Except.map], ?_⟩
    rintro ⟨o, d⟩
    simp only [List.mem_map, Move.mk.injEq, hmem]
    constructor
    · rintro ⟨d', leads, rfl, rfl⟩
      exact ⟨rfl, leads⟩
    · rintro ⟨rfl, leads⟩
      exact ⟨d, leads, rfl, rfl⟩
  obtain ⟨moves, hmoves, hmem⟩ := contributed
  refine ⟨moves, hmoves, fun m => ?_⟩
  rw [hmem]
  constructor
  · rintro ⟨⟨s, piece⟩, hp, rfl, leads⟩
    obtain ⟨hcell, hcolor⟩ := Board.mem_piecesOf.1 hp
    exact ⟨piece, hcell, hcolor, leads⟩
  · rintro ⟨piece, hcell, hcolor, leads⟩
    exact ⟨(m.origin, piece), Board.mem_piecesOf.2 ⟨hcell, hcolor⟩, rfl, leads⟩

theorem pseudoLegalMoves_of_geometricMoves {moves : List Move}
    (h : geometricMoves c b color = .ok moves) :
    pseudoLegalMoves c b color none = .of (.ok (Move.sort moves)) := by
  simp [pseudoLegalMoves, h, Report.of, bind, pure]

theorem exists_pseudoLegalMoves (compiled : c.Compiled)
    (known : ∀ p ∈ b.piecesOf color, p.2.symbol ∈ c.symbols) :
    ∃ found, pseudoLegalMoves c b color none = .of (.ok (Move.sort found)) ∧
      ∀ m, m ∈ Move.sort found ↔ Geometric c b color m := by
  obtain ⟨found, hfound, hmem⟩ := exists_geometricMoves compiled known
  refine ⟨found, pseudoLegalMoves_of_geometricMoves hfound, fun m => ?_⟩
  rw [Move.mem_sort, hmem]

/-- Without a hook, what is generated for a side whose pieces have entries in a compiled catalogue are
the geometric moves, in strictly increasing order and hence each once. -/
theorem pseudoLegalMoves_exact (compiled : c.Compiled)
    (known : ∀ p ∈ b.piecesOf color, p.2.symbol ∈ c.symbols) :
    ∃ moves, pseudoLegalMoves c b color none = .of (.ok moves) ∧ moves.Pairwise (Move.precedes · ·) ∧
      moves.Nodup ∧ ∀ m, m ∈ moves ↔ Geometric c b color m := by
  obtain ⟨found, hmoves, hmem⟩ := exists_pseudoLegalMoves compiled known
  exact ⟨Move.sort found, hmoves, Move.pairwise_sort found, Move.nodup_sort found, hmem⟩

/-- A piece that goes one square diagonally or two forward, and from there on along rows and columns. -/
def crab : Catalogue where
  entries := [("c", {
    name := "crab"
    rules := [.mk { distance := .exact 1 }
      [.heading .diagonal, .group (.mk { distance := .exact 2 } [.heading .forward] none)]
      (some (.mk {} [.heading .orthogonal] none))] })]

theorem compiled_crab : crab.Compiled := by
  refine List.forall_mem_singleton.2 ⟨"1X(2>).n+", ?_⟩
  rfl

theorem pseudoLegalMoves_exact_crab :
    let b := Board.ofRows [[none, none, some ⟨"c", .black, false⟩], [none, none, none],
      [some ⟨"c", .white, true⟩, none, none]]
    crab.Compiled ∧ (∀ p ∈ b.piecesOf .white, p.2.symbol ∈ crab.symbols) ∧
    ∃ moves, pseudoLegalMoves crab b .white none = .of (.ok moves) ∧
      moves.Pairwise (Move.precedes · ·) ∧ moves.Nodup ∧
      ∀ m, m ∈ moves ↔ Geometric crab b .white m := by
  intro b
  have known : ∀ p ∈ b.piecesOf .white, p.2.symbol ∈ crab.symbols := by decide
  exact ⟨compiled_crab, known, pseudoLegalMoves_exact compiled_crab known⟩

end VariantChess
