import VariantChess.Proofs.Legality

/-!
# Legality by replies

What is legal can be told from the moves that are generated, two plies deep and without attacks or
royal squares: a move is *secure* if it can be played and no reply that is generated for another side
lands on a royal piece of the mover. The legal moves of a side are its secure generated moves, and
whether it can play, is checkmated or is stalemated can be read off the same way
(`legalMoves_exact_by_replies`).
-/

namespace VariantChess

/-- The move is one of the pseudo-legal moves that are generated for the side. -/
def Generated (c : Catalogue) (b : Board) (color : Color) (m : Move) : Prop :=
  ∃ moves, (pseudoLegalMoves c b color none).result = .ok moves ∧ m ∈ moves

/-- A move that is generated for another side lands on a royal piece of the side. -/
def Exposed (c : Catalogue) (b : Board) (color : Color) : Prop :=
  ∃ other reply royal, other ≠ color ∧ Generated c b other reply ∧
    b.cell reply.destination = some royal ∧ royal.color = color ∧ c.IsRoyal royal.symbol

/-- The move can be played, and in the position after it no other side can take a royal piece. -/
def Secure (c : Catalogue) (b : Board) (color : Color) (m : Move) : Prop :=
  ∃ after captured, b.play m = .ok (after, captured) ∧ ¬ Exposed c after color

variable {c : Catalogue} {b : Board} {color : Color} {m : Move}

theorem generated_iff (compiled : c.Compiled) (covers : c.Covers b) :
    Generated c b color m ↔ Geometric c b color m := by
  have known : ∀ p ∈ b.piecesOf color, p.2.symbol ∈ c.symbols := covers.of_piecesOf color
  obtain ⟨found, hmoves, hmem⟩ := exists_pseudoLegalMoves compiled known
  simp [Generated, hmoves, Report.of, hmem]

/-- Attacks on royal pieces and generated moves onto them come to the same. -/
theorem exposed_iff (compiled : c.Compiled) (covers : c.Covers b) :
    Exposed c b color ↔ c.Threatened b color := by
  simp only [Exposed, generated_iff compiled covers]
  constructor
  · rintro ⟨other, ⟨s, d⟩, royal, hother, ⟨enemy, henemy, rfl, leads⟩, hroyal, hcolor, isRoyal⟩
    exact ⟨d, royal, hroyal, hcolor, isRoyal, s, enemy, henemy, hother, leads⟩
  · rintro ⟨d, royal, hroyal, hcolor, isRoyal, s, enemy, henemy, hother, leads⟩
    exact ⟨enemy.color, ⟨s, d⟩, royal, hother, ⟨enemy, henemy, rfl, leads⟩, hroyal, hcolor, isRoyal⟩

theorem secure_iff (compiled : c.Compiled) (covers : c.Covers b) : Secure c b color m ↔
    ∃ after captured, b.play m = .ok (after, captured) ∧ ¬ c.Threatened after color := by
  constructor
  · rintro ⟨after, captured, hplay, unexposed⟩
    rw [exposed_iff compiled (covers.of_play hplay)] at unexposed
    exact ⟨after, captured, hplay, unexposed⟩
  · rintro ⟨after, captured, hplay, safe⟩
    rw [← exposed_iff compiled (covers.of_play hplay)] at safe
    exact ⟨after, captured, hplay, safe⟩

/-- On a board whose pieces all have entries in a compiled catalogue, every generated move can be
played, the legal moves are the secure ones among them, in increasing order, and the state of a side
says whether it has one and, if not, whether a royal piece of it is exposed. -/
theorem legalMoves_exact_by_replies (compiled : c.Compiled) (covers : c.Covers b) (color : Color) :
    ∃ moves legal state,
      pseudoLegalMoves c b color none = .of (.ok moves) ∧
      (∀ m ∈ moves, ∃ after captured, b.play m = .ok (after, captured)) ∧
      legalMoves c b color none = .of (.ok legal) ∧
      legal.Pairwise (Move.precedes · ·) ∧
      (∀ m, m ∈ legal ↔ m ∈ moves ∧ Secure c b color m) ∧
      (terminalState c b color none).result = .ok state ∧
      (state = .playable ↔ ∃ m ∈ moves, Secure c b color m) ∧
      (state = .checkmated ↔ (¬ ∃ m ∈ moves, Secure c b color m) ∧ Exposed c b color) ∧
      (state = .stalemated ↔ (¬ ∃ m ∈ moves, Secure c b color m) ∧ ¬ Exposed c b color) := by
  have known : ∀ p ∈ b.piecesOf color, p.2.symbol ∈ c.symbols := fun p hp =>
    covers p (List.mem_filter.1 hp).1
  obtain ⟨found, hmoves, hgeometric⟩ := exists_pseudoLegalMoves compiled known
  obtain ⟨legal, hlegal, hmem⟩ := exists_legalMoves compiled covers color
  obtain ⟨pass, hpass, hcheck⟩ := exists_isInCheck compiled covers color
  have isLegal : ∀ m, m ∈ legal ↔ m ∈ Move.sort found ∧ Secure c b color m := fun m => by
    rw [hmem, hgeometric, secure_iff compiled covers]
  have able : legal ≠ [] ↔ ∃ m ∈ Move.sort found, Secure c b color m := by
    rw [ne_eq, List.eq_nil_iff_forall_not_mem, not_forall_not]
    simp only [isLegal]
  refine ⟨Move.sort found, legal, _, hmoves, fun m hm => ((hgeometric m).1 hm).exists_play, hlegal,
    (Move.pairwise_sort found).sublist (sublist_legalMoves hmoves (congrArg Report.result hlegal)),
    isLegal, result_terminalState hlegal hpass, ?_⟩
  rw [← able, exposed_iff compiled covers, ← hcheck]
  cases pass <;> by_cases hnil : legal = [] <;> simp [hnil]

/-- A king, and a piece that takes along rows and columns over the first piece in its way. -/
def siege : Catalogue where
  entries := [
    ("k", {
      name := "king"
      rules := [.mk { distance := .exact 1 } [.heading .all] none]
      royal := true }),
    ("a", { name := "cannon", rules := [.mk { locust := true } [.heading .orthogonal] none] })]

theorem compiled_siege : siege.Compiled := by
  refine List.forall_mem_cons.2 ⟨⟨"1*", ?_⟩, List.forall_mem_singleton.2 ⟨"^n+", ?_⟩⟩
  · rfl
  · rfl

/-- Three sides: the black cannon checks the white king over the yellow one. -/
theorem legalMoves_exact_by_replies_siege :
    let b := Board.ofRows [
      [some ⟨"k", .white, true⟩, some ⟨"a", .yellow, false⟩, some ⟨"a", .black, false⟩],
      [none, some ⟨"k", .black, false⟩, none]]
    siege.Compiled ∧ siege.Covers b ∧ ∃ moves legal state,
      pseudoLegalMoves siege b .white none = .of (.ok moves) ∧
      (∀ m ∈ moves, ∃ after captured, b.play m = .ok (after, captured)) ∧
      legalMoves siege b .white none = .of (.ok legal) ∧
      legal.Pairwise (Move.precedes · ·) ∧
      (∀ m, m ∈ legal ↔ m ∈ moves ∧ Secure siege b .white m) ∧
      (terminalState siege b .white none).result = .ok state ∧
      (state = .playable ↔ ∃ m ∈ moves, Secure siege b .white m) ∧
      (state = .checkmated ↔ (¬ ∃ m ∈ moves, Secure siege b .white m) ∧ Exposed siege b .white) ∧
      (state = .stalemated ↔ (¬ ∃ m ∈ moves, Secure siege b .white m) ∧ ¬ Exposed siege b .white) := by
  intro b
  have covers : siege.Covers b := by unfold Catalogue.Covers; decide
  exact ⟨compiled_siege, covers, legalMoves_exact_by_replies compiled_siege covers .white⟩

end VariantChess
