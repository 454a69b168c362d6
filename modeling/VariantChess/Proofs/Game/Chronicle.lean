import VariantChess.Game.Session
import VariantChess.Proofs.Legality

/-!
# Chronicles

A *chronicle* is a history that tells how a board has come about: every record describes the position
that it was played in and the one right after it. So the board is the starting board with the moves of
the history played one after the other (`Chronicle.replay`). An outcome *concludes* a history if the
last record says so and no record before it says that the game has ended.
-/

namespace VariantChess

/-- The board after these moves, played one after the other. -/
def Board.replay (b : Board) (moves : List Move) : Except Move.Fault Board :=
  moves.foldlM (fun b m => (b.play m).map (·.1)) b

theorem Board.replay_append (b : Board) (front behind : List Move) :
    b.replay (front ++ behind) = b.replay front >>= fun b => b.replay behind := List.foldlM_append

theorem Board.replay_cons {b after : Board} {m : Move} {captured : Bool}
    (play : b.play m = .ok (after, captured)) (moves : List Move) :
    b.replay (m :: moves) = after.replay moves := by
  rw [replay, List.foldlM_cons, play]
  rfl

/-- How a game stands after a move of this side, by the state of the next. -/
def Outcome.behind (mover : Color) : TerminalState → Outcome
  | .playable => .inProgress
  | .checkmated => .win mover
  | .stalemated => .draw

namespace Outcome

variable {mover winner : Color} {state : TerminalState}

theorem eq_inProgress_of_running {outcome : Outcome} (running : outcome.isOver = false) :
    outcome = .inProgress := by
  cases outcome with
  | inProgress => rfl
  | win color => cases running
  | draw => cases running

theorem behind_eq_inProgress_iff : behind mover state = .inProgress ↔ state = .playable := by
  cases state <;> simp [behind]

theorem behind_eq_win_iff :
    behind mover state = .win winner ↔ state = .checkmated ∧ mover = winner := by
  cases state <;> simp [behind]

theorem behind_eq_draw_iff : behind mover state = .draw ↔ state = .stalemated := by
  cases state <;> simp [behind]

end Outcome

/-- What a record says of the position that its move was played in and of the one right after it. -/
structure Record.Describes (record : Record) (r : Ruleset) (before after : Board) : Prop where
  /-- A piece of the side and the symbol stood on the origin. -/
  mover : ∃ piece, before.cell record.move.origin = some piece ∧ piece.color = record.color ∧
    piece.symbol = record.symbol
  geometric : Geometric r.catalogue before record.color record.move
  played : before.play record.move = .ok (after, record.captured)
  captured : record.captured = (before.cell record.move.destination).isSome
  safe : ¬ r.catalogue.Threatened after record.color
  next : r.nextColor record.color = .ok record.nextColor
  state : (terminalState r.catalogue after record.nextColor none).result = .ok record.nextState

/-- The records tell how the game has gone from the starting board to this board. -/
inductive Chronicle (r : Ruleset) (start : Board) : List Record → Board → Prop
  | nil : Chronicle r start [] start
  | concat {history : List Record} {before after : Board} {record : Record}
      (past : Chronicle r start history before) (describes : record.Describes r before after) :
      Chronicle r start (history ++ [record]) after

/-- The game stands as its last record says, and has not ended before. -/
structure Outcome.Concludes (outcome : Outcome) (history : List Record) : Prop where
  last : outcome = history.getLast?.elim .inProgress fun record => .behind record.color record.nextState
  before : ∀ record ∈ history.dropLast, record.nextState = .playable

/-! ### What a chronicle tells -/

variable {r : Ruleset} {start board : Board} {history earlier later : List Record} {record : Record}
  {outcome : Outcome}

namespace Chronicle

/-- Pieces come into no chronicle that were not on the board before. -/
theorem covers (chronicle : Chronicle r start history board) (covers : r.catalogue.Covers start) :
    r.catalogue.Covers board := by
  induction chronicle with
  | nil => exact covers
  | concat _ describes ih => exact ih.of_play describes.played

theorem replay (chronicle : Chronicle r start history board) :
    start.replay (history.map (·.move)) = .ok board := by
  induction chronicle with
  | nil => rfl
  | concat _ describes ih =>
    rw [Board.replay] at ih ⊢
    rw [List.map_append, List.foldlM_append, ih]
    simp [bind, Except.bind, describes.played, Except.map, pure, Except.pure]

/-- The records before any one of them are a chronicle too. -/
theorem exists_past (chronicle : Chronicle r start history board)
    (h : history = earlier ++ record :: later) :
    ∃ before after, Chronicle r start earlier before ∧ record.Describes r before after := by
  induction chronicle generalizing later with
  | nil => simp at h
  | @concat history before after last past describes ih =>
    rcases later.eq_nil_or_concat with rfl | ⟨later, last', rfl⟩
    · obtain ⟨rfl, rfl⟩ : history = earlier ∧ last = record := by simpa using h
      exact ⟨before, after, past, describes⟩
    · rw [List.concat_eq_append, ← List.cons_append, ← List.append_assoc] at h
      obtain ⟨hpast, -⟩ := List.append_inj' h rfl
      exact ih hpast

/-- The side of the last record is not threatened. -/
theorem not_threatened (chronicle : Chronicle r start history board)
    (h : history.getLast? = some record) : ¬ r.catalogue.Threatened board record.color := by
  cases chronicle with
  | nil => simp at h
  | concat past describes =>
    obtain rfl : _ = record := by simpa using h
    exact describes.safe

end Chronicle

/-! ### What the last record tells -/

namespace Outcome.Concludes

/-- No record of a running game says that the next side cannot play. -/
theorem forall_playable (concludes : Concludes .inProgress history) :
    ∀ record ∈ history, record.nextState = .playable := by
  rcases history.eq_nil_or_concat with rfl | ⟨history, last, rfl⟩
  · simp
  · obtain ⟨hlast, hbefore⟩ := concludes
    rw [List.concat_eq_append] at hlast hbefore ⊢
    rw [List.dropLast_concat] at hbefore
    intro record hrecord
    rcases List.mem_append.1 hrecord with hrecord | hrecord
    · exact hbefore record hrecord
    · obtain rfl := List.mem_singleton.1 hrecord
      exact behind_eq_inProgress_iff.1 (by simpa using hlast.symm)

theorem concat (concludes : Concludes .inProgress history) (record : Record) :
    Concludes (.behind record.color record.nextState) (history ++ [record]) :=
  ⟨by simp, by rw [List.dropLast_concat]; exact concludes.forall_playable⟩

theorem inProgress_iff (concludes : outcome.Concludes history) :
    outcome = .inProgress ↔ ∀ record ∈ history, record.nextState = .playable := by
  constructor
  · rintro rfl
    exact concludes.forall_playable
  · intro playable
    rw [concludes.last]
    cases hlast : history.getLast? with
    | none => rfl
    | some record => exact behind_eq_inProgress_iff.2 (playable record (List.mem_of_getLast? hlast))

theorem win_iff (concludes : outcome.Concludes history) {winner : Color} :
    outcome = .win winner ↔ ∃ record, history.getLast? = some record ∧
      record.nextState = .checkmated ∧ record.color = winner := by
  rw [concludes.last]
  cases history.getLast? with
  | none => simp
  | some record => simp [behind_eq_win_iff]

theorem draw_iff (concludes : outcome.Concludes history) :
    outcome = .draw ↔ ∃ record, history.getLast? = some record ∧ record.nextState = .stalemated := by
  rw [concludes.last]
  cases history.getLast? with
  | none => simp
  | some record => simp [behind_eq_draw_iff]

theorem later_eq_nil (concludes : outcome.Concludes history) (h : history = earlier ++ record :: later)
    (ended : record.nextState ≠ .playable) : later = [] := by
  rcases later.eq_nil_or_concat with rfl | ⟨later, last, rfl⟩
  · rfl
  · refine absurd (concludes.before record ?_) ended
    rw [h, List.concat_eq_append, ← List.cons_append, ← List.append_assoc, List.dropLast_concat]
    simp

end Outcome.Concludes

end VariantChess
