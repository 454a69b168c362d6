import VariantChess.Proofs.Legality
import VariantChess.Proofs.Reflection.Board

/-!
# Rules on reflected boards

A rule leads the image of a piece to the image of every square to which it leads the piece, and to no
other. For a walk this is so square by square; the steps of the headings are those of the reflected
side, reflected, since a side moves forward as the side that it becomes does on the reflected board
(`Reflection.Fits`). From there it passes to the legs that follow, to groups, to attacks and to checks.
-/

namespace VariantChess.Reflection

open Movement

variable {r : Reflection} {b : Board} {side : Color} {s d : Square} {v : Step} {piece : Piece} {m : Move}
  {c : Catalogue}

/-! ### Walks -/

theorem walk_board (leg : Leg) (k : Nat) (leapt : Bool) (ahead : List Square) :
    leg.walk (r.board b) (r.color side) k leapt (ahead.map (r.square b)) =
      (leg.walk b side k leapt ahead).map (r.square b) := by
  induction ahead generalizing k leapt with
  | nil => rfl
  | cons s ahead ih =>
    have sameSide : ∀ p : Piece, ((r.piece p).color == r.color side) = (p.color == side) := by
      intro p
      rw [Bool.eq_iff_iff, beq_iff_eq, beq_iff_eq, piece_color, color_inj]
    rw [List.map_cons, Leg.walk, Leg.walk, cell_board]
    cases b.cell s with
    | none =>
      simp only [Option.map_none, ih]
      split <;> simp
    | some p =>
      simp only [Option.map_some, ih, sameSide]
      split_ifs <;> simp

theorem reach_board (leg : Leg) (s : Square) (v : Step) :
    leg.reach (r.board b) (r.color side) (r.square b s) (r.step v) =
      (leg.reach b side s v).map (r.square b) := by
  have extent : (r.board b).extent = b.extent := by simp [Board.extent]
  have span : leg.span (r.board b) = leg.span b := by rw [Leg.span, Leg.span, extent]
  rw [Leg.reach, Leg.reach, span, ray_board, walk_board]

/-! ### Steps -/

theorem forward_color (fits : r.Fits side) :
    (r.color side).forward = if r = topBottom then -side.forward else side.forward := by
  cases r with
  | leftRight => rfl
  | topBottom =>
    have hne : side ≠ .yellow := fits rfl
    cases side with
    | white => rfl
    | black => rfl
    | yellow => exact absurd rfl hne

theorem step_mem_orthogonalSteps (h : v ∈ Heading.orthogonalSteps) :
    r.step v ∈ Heading.orthogonalSteps := by
  revert v
  cases r <;> decide

theorem step_mem_diagonalSteps (h : v ∈ Heading.diagonalSteps) :
    r.step v ∈ Heading.diagonalSteps := by
  revert v
  cases r <;> decide

theorem step_mem_leaps {m n : Int} (h : v ∈ Distance.leaps m n) : r.step v ∈ Distance.leaps m n := by
  simp only [Distance.leaps, List.mem_eraseDups, List.mem_cons, List.not_mem_nil, or_false] at h ⊢
  cases r <;> rcases h with rfl | rfl | rfl | rfl | rfl | rfl | rfl | rfl <;> simp [step]

/-- The steps of a heading for the side that a side becomes are its steps, reflected. -/
theorem step_mem_steps {h : Heading} {distance : Distance} {steps : List Step} (fits : r.Fits side)
    (hsteps : h.steps? side distance = some steps) (hv : v ∈ steps) :
    ∃ steps', h.steps? (r.color side) distance = some steps' ∧ r.step v ∈ steps' := by
  have forward := forward_color fits
  cases h with
  | hippogonal =>
    cases distance with
    | hippogonal m n =>
      obtain rfl : Distance.leaps m n = steps := Option.some.inj hsteps
      exact ⟨_, rfl, step_mem_leaps hv⟩
    | _ => cases hsteps
  | all =>
    obtain rfl := Option.some.inj hsteps
    refine ⟨_, rfl, List.mem_append.2 ?_⟩
    exact (List.mem_append.1 hv).imp step_mem_orthogonalSteps step_mem_diagonalSteps
  | orthogonal =>
    obtain rfl := Option.some.inj hsteps
    exact ⟨_, rfl, step_mem_orthogonalSteps hv⟩
  | diagonal =>
    obtain rfl := Option.some.inj hsteps
    exact ⟨_, rfl, step_mem_diagonalSteps hv⟩
  | forward | backward | sideways | diagonalForward | diagonalBackward =>
    -- at most two steps, all told by the forward one
    obtain rfl := Option.some.inj hsteps
    refine ⟨_, rfl, ?_⟩
    simp only [List.mem_cons, List.not_mem_nil, or_false] at hv
    cases r <;> rcases hv with rfl | rfl <;> simp [step, forward]

theorem hasStep_step {rule : Rule} (fits : r.Fits side) (h : rule.HasStep side v) :
    rule.HasStep (r.color side) (r.step v) := by
  obtain ⟨heading, steps, mem, hsteps, hv⟩ := h
  obtain ⟨steps', hsteps', hv'⟩ := step_mem_steps fits hsteps hv
  exact ⟨heading, steps', mem, hsteps', hv'⟩

/-! ### Rules -/

mutual

theorem reaches_board (fits : r.Fits piece.color) : ∀ {rule : Rule} {s d : Square},
    rule.Reaches b piece s d → rule.Reaches (r.board b) (r.piece piece) (r.square b s) (r.square b d)
  | rule, s, _, .walk available step walked => by
    refine .walk available (hasStep_step fits step) ?_
    rw [piece_color, reach_board]
    exact List.mem_map_of_mem walked
  | _, _, _, .group available mem attained away =>
    .group available mem (attains_board fits attained) fun h => away (square_inj.1 h)

theorem attains_board (fits : r.Fits piece.color) : ∀ {rule : Rule} {s d : Square},
    rule.Attains b piece s d → rule.Attains (r.board b) (r.piece piece) (r.square b s) (r.square b d)
  | _, _, _, .here reached => .here (reaches_board fits reached)
  | _, _, _, .onward reached next attained =>
    .onward (reaches_board fits reached) next (attains_board fits attained)

end

theorem leads_board (fits : r.Fits piece.color) (h : c.Leads b piece s d) :
    c.Leads (r.board b) (r.piece piece) (r.square b s) (r.square b d) := by
  obtain ⟨kind, rule, hfind, hrule, attained, away⟩ := h
  exact ⟨kind, rule, hfind, hrule, attains_board fits attained, fun h => away (square_inj.1 h)⟩

/-! ### Moves and checks -/

/-- Every piece of the board fits. -/
def Suits (r : Reflection) (b : Board) : Prop := ∀ s p, b.cell s = some p → r.Fits p.color

theorem exists_cell_of_cell_board (h : (r.board b).cell s = some piece) :
    b.cell (r.square b s) = some (r.piece piece) := by
  have twice : (r.board (r.board b)).cell (r.square (r.board b) s) = some (r.piece piece) := by
    rw [cell_board, h]
    rfl
  rwa [board_board, square_board] at twice

theorem Suits.board (suits : r.Suits b) : r.Suits (r.board b) := by
  intro s p hp
  have fits : r.Fits (r.piece p).color := suits _ _ (exists_cell_of_cell_board hp)
  simpa using fits.reflected

theorem geometric_board (suits : r.Suits b) (h : Geometric c b side m) :
    Geometric c (r.board b) (r.color side) (r.move b m) := by
  obtain ⟨piece, hp, rfl, leads⟩ := h
  exact ⟨r.piece piece, by simp [move, hp], rfl, leads_board (suits _ _ hp) leads⟩

/-- The moves of the reflected board are the reflected moves. -/
theorem geometric_board_iff (suits : r.Suits b) :
    Geometric c (r.board b) (r.color side) (r.move b m) ↔ Geometric c b side m := by
  constructor
  · intro h
    simpa using geometric_board suits.board h
  · exact geometric_board suits

theorem threatened_board (suits : r.Suits b) (h : c.Threatened b side) :
    c.Threatened (r.board b) (r.color side) := by
  obtain ⟨d, royal, hroyal, rfl, isRoyal, s, enemy, henemy, hne, leads⟩ := h
  refine ⟨r.square b d, r.piece royal, by simp [hroyal], rfl, isRoyal,
    r.square b s, r.piece enemy, by simp [henemy], ?_, leads_board (suits _ _ henemy) leads⟩
  simpa using hne

theorem threatened_board_iff (suits : r.Suits b) :
    c.Threatened (r.board b) (r.color side) ↔ c.Threatened b side := by
  constructor
  · intro h
    simpa using threatened_board suits.board h
  · exact threatened_board suits

end VariantChess.Reflection
