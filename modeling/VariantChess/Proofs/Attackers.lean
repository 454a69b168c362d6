import VariantChess.Proofs.Legality

/-!
# Attackers and generated moves

Attacks are found piece by piece, in the order of the board and up to the first one that is asked for;
moves are generated side by side, sorted, and each once. Both follow the same leads, so they agree: the
attackers of a square are the origins of the moves onto it that are generated for the other sides
(`attackersOf_exact`).
-/

namespace VariantChess

variable {c : Catalogue} {b : Board} {color : Color} {target : Square} {attackers : List Square}

theorem exists_geometric_iff {o : Square} : (∃ other, other ≠ color ∧ Geometric c b other ⟨o, target⟩) ↔
    ∃ enemy, b.cell o = some enemy ∧ enemy.color ≠ color ∧ c.Leads b enemy o target := by
  constructor
  · rintro ⟨other, hother, enemy, henemy, rfl, leads⟩
    exact ⟨enemy, henemy, hother, leads⟩
  · rintro ⟨enemy, henemy, hother, leads⟩
    exact ⟨enemy.color, hother, enemy, henemy, rfl, leads⟩

/-- A side is threatened if another one has a geometric move onto one of its royal pieces. -/
theorem threatened_iff : c.Threatened b color ↔ ∃ other, other ≠ color ∧ ∃ m, Geometric c b other m ∧
    ∃ royal, b.cell m.destination = some royal ∧ royal.color = color ∧ c.IsRoyal royal.symbol := by
  constructor
  · rintro ⟨d, royal, hroyal, hcolor, isRoyal, s, attacker⟩
    obtain ⟨other, hother, hmove⟩ := exists_geometric_iff.2 attacker
    exact ⟨other, hother, ⟨s, d⟩, hmove, royal, hroyal, hcolor, isRoyal⟩
  · rintro ⟨other, hother, ⟨s, d⟩, hmove, royal, hroyal, hcolor, isRoyal⟩
    exact ⟨d, royal, hroyal, hcolor, isRoyal, s, exists_geometric_iff.1 ⟨other, hother, hmove⟩⟩

/-! ### The list of attackers -/

theorem pairwise_attackersOf (h : attackersOf c b color target = .ok attackers) :
    attackers.Pairwise fun o o' => o.y < o'.y ∨ o.y = o'.y ∧ o.x < o'.x := by
  rw [attackersOf] at h
  split at h
  · obtain ⟨kept, hkept, rfl⟩ := map_eq_ok_iff.1 h
    have scanned : kept.Pairwise fun p q => p.1.y < q.1.y ∨ p.1.y = q.1.y ∧ p.1.x < q.1.x :=
      Board.pairwise_pieces.sublist ((sublist_of_keep hkept).trans List.filter_sublist)
    exact List.pairwise_map.2 scanned
  · cases h

theorem nodup_of_scanned (h : attackers.Pairwise fun o o' => o.y < o'.y ∨ o.y = o'.y ∧ o.x < o'.x) :
    attackers.Nodup := by
  refine h.imp ?_
  rintro o o' before rfl
  omega

theorem exists_attackersOf (compiled : c.Compiled) (covers : c.Covers b) (color : Color)
    (inside : b.contains target) :
    ∃ attackers, attackersOf c b color target = .ok attackers ∧ ∀ o, o ∈ attackers ↔
      ∃ enemy, b.cell o = some enemy ∧ enemy.color ≠ color ∧ c.Leads b enemy o target := by
  obtain ⟨kept, hkept, hmem⟩ := exists_keep fun p (hp : p ∈ b.enemiesOf color) =>
    exists_attacks (b := b) compiled (covers p (List.mem_filter.1 hp).1) target
  refine ⟨kept.map (·.1), by rw [attackersOf, if_pos inside, hkept]; rfl, fun o => ?_⟩
  simp [hmem, Board.enemiesOf, Board.mem_pieces, and_assoc]

/-- The search for one attacker ends as the search for all would have it. -/
theorem isAttacked_eq (compiled : c.Compiled) (covers : c.Covers b) (inside : b.contains target)
    (h : ∀ o, o ∈ attackers ↔
      ∃ enemy, b.cell o = some enemy ∧ enemy.color ≠ color ∧ c.Leads b enemy o target) :
    isAttacked c b color target = .ok !attackers.isEmpty := by
  obtain ⟨pass, hp, hpass⟩ := exists_isAttacked compiled covers color inside
  have attacked : c.Attacked b color target ↔ attackers ≠ [] := by
    rw [ne_eq, List.eq_nil_iff_forall_not_mem, not_forall_not]
    simp only [h, Catalogue.Attacked]
  rw [attacked] at hpass
  cases attackers with
  | nil =>
    obtain rfl : pass = false := by simpa using hpass
    exact hp
  | cons o attackers =>
    obtain rfl : pass = true := by simpa using hpass
    exact hp

/-- On a board whose pieces all have entries in a compiled catalogue, the moves of every side can be
generated; the attackers of a square are, in the order of the board and each once, the origins of the
other sides' moves onto it, it is attacked if there are any, and a side is in check if another one has a
move onto one of its royal pieces. -/
theorem attackersOf_exact (compiled : c.Compiled) (covers : c.Covers b) (color : Color) :
    ∃ moves : Color → List Move,
      (∀ other, pseudoLegalMoves c b other none = .of (.ok (moves other))) ∧
      (∀ target, b.contains target → ∃ attackers,
        attackersOf c b color target = .ok attackers ∧
        attackers.Pairwise (fun o o' => o.y < o'.y ∨ o.y = o'.y ∧ o.x < o'.x) ∧ attackers.Nodup ∧
        (∀ o, o ∈ attackers ↔ ∃ other, other ≠ color ∧ ⟨o, target⟩ ∈ moves other) ∧
        isAttacked c b color target = .ok !attackers.isEmpty) ∧
      ∃ inCheck, isInCheck c b color = .ok inCheck ∧
        (inCheck = true ↔ ∃ other, other ≠ color ∧ ∃ m ∈ moves other, ∃ royal,
          b.cell m.destination = some royal ∧ royal.color = color ∧ c.IsRoyal royal.symbol) := by
  choose found hmoves hgeometric using fun other =>
    exists_pseudoLegalMoves compiled (covers.of_piecesOf other)
  obtain ⟨inCheck, hcheck, hthreatened⟩ := exists_isInCheck compiled covers color
  refine ⟨fun other => Move.sort (found other), hmoves, fun target inside => ?_, inCheck, hcheck, ?_⟩
  · obtain ⟨attackers, hattackers, hmem⟩ := exists_attackersOf compiled covers color inside
    have scanned := pairwise_attackersOf hattackers
    refine ⟨attackers, hattackers, scanned, nodup_of_scanned scanned, fun o => ?_,
      isAttacked_eq compiled covers inside hmem⟩
    simp only [hmem, hgeometric, exists_geometric_iff]
  · simp only [hthreatened, threatened_iff, hgeometric]

/-- A royal piece that steps to the next square in any direction and rides along rows and columns. -/
def patrol : Catalogue where
  entries := [("g", {
    name := "guard"
    rules := [
      .mk { distance := .exact 1 } [.heading .all] none,
      .mk {} [.heading .orthogonal] none]
    royal := true })]

theorem compiled_patrol : patrol.Compiled := by
  refine List.forall_mem_singleton.2 ⟨"1*,n+", ?_⟩
  rfl

/-- Two sides attack the white guard, each guard of theirs by both of its rules; the one to the left is
the second attacker, since it stands in a later row, although its move would come first. -/
theorem attackersOf_exact_patrol :
    let b := Board.ofRows [
      [none, some ⟨"g", .yellow, false⟩, none],
      [some ⟨"g", .black, false⟩, some ⟨"g", .white, true⟩, none]]
    patrol.Compiled ∧ patrol.Covers b ∧ b.contains ⟨1, 1⟩ ∧
    attackersOf patrol b .white ⟨1, 1⟩ = .ok [⟨1, 0⟩, ⟨0, 1⟩] ∧
    ∃ moves : Color → List Move,
      (∀ other, pseudoLegalMoves patrol b other none = .of (.ok (moves other))) ∧
      (∀ target, b.contains target → ∃ attackers,
        attackersOf patrol b .white target = .ok attackers ∧
        attackers.Pairwise (fun o o' => o.y < o'.y ∨ o.y = o'.y ∧ o.x < o'.x) ∧ attackers.Nodup ∧
        (∀ o, o ∈ attackers ↔ ∃ other, other ≠ .white ∧ ⟨o, target⟩ ∈ moves other) ∧
        isAttacked patrol b .white target = .ok !attackers.isEmpty) ∧
      ∃ inCheck, isInCheck patrol b .white = .ok inCheck ∧
        (inCheck = true ↔ ∃ other, other ≠ .white ∧ ∃ m ∈ moves other, ∃ royal,
          b.cell m.destination = some royal ∧ royal.color = .white ∧
            patrol.IsRoyal royal.symbol) := by
  intro b
  have covers : patrol.Covers b := by unfold Catalogue.Covers; decide
  exact ⟨compiled_patrol, covers, by decide, by rfl, attackersOf_exact compiled_patrol covers .white⟩

end VariantChess
