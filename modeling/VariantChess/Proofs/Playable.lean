import VariantChess.Proofs.Extension

/-!
# Generated moves can be played

Playing a move takes a piece on its origin and another square of the board as its destination. What is
generated never fails on that: geometric moves, through however many legs and groups, end on squares
that are free or held by another side, and a hook that does not fail adds moves of the pieces it was
asked for to other squares of the board (`playable_pseudoLegalMoves`).
-/

namespace VariantChess

/-- A piece of the side stands on the origin, and the destination is another square of the board. -/
structure Playable (b : Board) (color : Color) (m : Move) : Prop where
  own : ∃ piece, b.cell m.origin = some piece ∧ piece.color = color
  inside : b.contains m.destination
  away : m.destination ≠ m.origin

variable {c : Catalogue} {b : Board} {color : Color} {m : Move} {hook : ExtraMoves}
variable {call : Square × String} {calls : List (Square × String)} {found moves : List Move}

theorem Playable.exists_play (h : Playable b color m) :
    ∃ after captured, b.play m = .ok (after, captured) := by
  obtain ⟨piece, hp, -⟩ := h.own
  exact ⟨_, _, Board.play_eq_ok_iff.2
    ⟨Board.contains_of_cell hp, h.inside, h.away.symm, piece, hp, rfl, rfl⟩⟩

theorem Geometric.playable (h : Geometric c b color m) : Playable b color m := by
  have inside := h.admits.1
  obtain ⟨piece, hp, hcolor, kind, rule, -, -, -, away⟩ := h
  exact ⟨⟨piece, hp, hcolor⟩, inside, away⟩

/-! ### Hooks that do not fail -/

/-- A destination that a hook adds is one of the squares that it answers with. -/
theorem ExtraMoves.Adds.contains (adds : hook.Adds b call m) (grants : hook.Grants b call) :
    b.contains m.destination := by
  obtain ⟨answers, given, answer, hanswer, square, -⟩ := adds
  obtain ⟨answers', given', squares⟩ := grants
  obtain rfl : answers = answers' := Except.ok.inj (given.symm.trans given')
  obtain ⟨s, square', inside⟩ := squares answer hanswer
  rw [← Datum.square?_eq_some_iff] at square square'
  obtain rfl : m.destination = s := Option.some.inj (square.symm.trans square')
  exact inside

theorem ExtraMoves.Adds.playable (adds : hook.Adds b call m) (grants : hook.Grants b call)
    (asks : Asks c b color call.1 call.2) : Playable b color m := by
  obtain ⟨piece, kind, hp, hcolor, -⟩ := asks
  have inside := adds.contains grants
  obtain ⟨answers, -, answer, -, -, away, horigin⟩ := adds
  rw [← horigin] at hp away
  exact ⟨⟨piece, hp, hcolor⟩, inside, away⟩

/-- If asking the pieces comes to an end, no call has failed. -/
theorem grants_of_extendedMoves (h : (extendedMoves hook b calls found).result = .ok moves) :
    ∀ call ∈ calls, hook.Grants b call := by
  induction calls generalizing found with
  | nil => exact List.forall_mem_nil _
  | cons call calls ih =>
    have first : hook.Grants b call := by
      by_contra fails
      obtain ⟨fault, id, origin, log, failed, -⟩ := askedMoves_of_not_grants fails found
      rw [extendedMoves] at h
      simp only [bind, failed] at h
      cases h
    obtain ⟨granted, hgranted, -⟩ := askedMoves_of_grants first found
    rw [extendedMoves_cons hgranted] at h
    exact List.forall_mem_cons.2 ⟨first, ih h⟩

theorem mem_extendedMoves (sorted : found.Pairwise (Move.precedes · ·))
    (h : (extendedMoves hook b calls found).result = .ok moves) :
    m ∈ moves ↔ m ∈ found ∨ ∃ call ∈ calls, hook.Adds b call m := by
  obtain ⟨moves', -, hmem, run⟩ := extendedMoves_append (grants_of_extendedMoves h) sorted
  have whole := run []
  rw [List.append_nil] at whole
  rw [whole] at h
  obtain rfl : moves' = moves := Except.ok.inj h
  exact hmem m

/-- Without a hook, moves are generated for a side whose pieces have entries in a compiled catalogue, and
each can be played and ends on a free square or on a piece of another side; a hook that does not fail
leaves it at moves that can be played. -/
theorem playable_pseudoLegalMoves (compiled : c.Compiled)
    (known : ∀ p ∈ b.piecesOf color, p.2.symbol ∈ c.symbols) :
    (∃ moves, pseudoLegalMoves c b color none = .of (.ok moves) ∧ ∀ m ∈ moves,
      Playable b color m ∧ (∃ after captured, b.play m = .ok (after, captured)) ∧
      ∀ piece, b.cell m.destination = some piece → piece.color ≠ color) ∧
    ∀ hook moves, (pseudoLegalMoves c b color (some hook)).result = .ok moves → ∀ m ∈ moves,
      Playable b color m ∧ ∃ after captured, b.play m = .ok (after, captured) := by
  obtain ⟨found, hfound, hgeometric⟩ := exists_geometricMoves compiled known
  refine ⟨⟨Move.sort found, pseudoLegalMoves_of_geometricMoves hfound, fun m hm => ?_⟩, ?_⟩
  · have geometric := (hgeometric m).1 (Move.mem_sort.1 hm)
    exact ⟨geometric.playable, geometric.exists_play, geometric.admits.2⟩
  · intro hook moves h m hm
    have hooked : (extendedMoves hook b (askers c b color) (Move.sort found)).result = .ok moves := by
      simpa only [pseudoLegalMoves, hfound, Report.of, bind, List.nil_append] using h
    have playable : Playable b color m := by
      rcases (mem_extendedMoves (Move.pairwise_sort found) hooked).1 hm with hm | ⟨call, hcall, adds⟩
      · exact ((hgeometric m).1 (Move.mem_sort.1 hm)).playable
      · exact adds.playable (grants_of_extendedMoves hooked call hcall) (mem_askers.1 hcall)
    exact ⟨playable, playable.exists_play⟩

/-- A piece that steps along rows and columns and rides on from there, and further where a hook lets it. -/
def tug : Catalogue where
  entries := [("t", {
    name := "tug"
    rules := [.mk { distance := .exact 1 } [.heading .orthogonal]
      (some (.mk {} [.heading .orthogonal] none))]
    extraMoves := some "tow" })]

theorem compiled_tug : tug.Compiled := by
  refine List.forall_mem_singleton.2 ⟨"1+.n+", ?_⟩
  rfl

/-- Every tug may go to the corner, whoever stands there, and to where it is, which is no move. -/
def towing : ExtraMoves := fun _ origin _ =>
  ⟨.ok [.list [.int origin.x, .int origin.y], .pair (.int 0) (.int 0)], [.asked origin]⟩

/-- The second tug's rule leads it back to its origin, and the hook leads it onto the first tug. -/
theorem playable_pseudoLegalMoves_tug :
    let b := Board.ofRows [
      [some ⟨"t", .white, false⟩, none, some ⟨"t", .black, false⟩],
      [none, some ⟨"t", .white, false⟩, none]]
    let tow : Move := ⟨⟨1, 1⟩, ⟨0, 0⟩⟩
    tug.Compiled ∧ (∀ p ∈ b.piecesOf .white, p.2.symbol ∈ tug.symbols) ∧
    (∃ moves, pseudoLegalMoves tug b .white none = .of (.ok moves) ∧ ∀ m ∈ moves,
      Playable b .white m ∧ (∃ after captured, b.play m = .ok (after, captured)) ∧
      ∀ piece, b.cell m.destination = some piece → piece.color ≠ .white) ∧
    ∃ moves, (pseudoLegalMoves tug b .white (some towing)).result = .ok moves ∧ tow ∈ moves ∧
      Playable b .white tow ∧ ∃ after captured, b.play tow = .ok (after, captured) := by
  intro b tow
  have known : ∀ p ∈ b.piecesOf .white, p.2.symbol ∈ tug.symbols := by decide
  obtain ⟨unhooked, hooked⟩ := playable_pseudoLegalMoves compiled_tug known
  have towed : ∃ moves, (pseudoLegalMoves tug b .white (some towing)).result = .ok moves ∧
      tow ∈ moves := ⟨_, rfl, by decide⟩
  obtain ⟨moves, hmoves, htow⟩ := towed
  exact ⟨compiled_tug, known, unhooked, moves, hmoves, htow, hooked towing moves hmoves tow htow⟩

end VariantChess
