import VariantChess.Proofs.Extension
import VariantChess.Proofs.Game.Chronicle
import VariantChess.Proofs.Game.Course

/-!
# Games by the rules alone

A session is *regular* if its pieces all have entries in a compiled catalogue and no hook is asked for
further destinations: there are no hooks, or no entry names one of that kind. Then nothing fails before
the hooks of the moved piece run. A move is refused with an error of the move, and the session stays
what it was, or it can be played; and the turn of a side in the turn order can be passed on.
-/

namespace VariantChess.Session

structure Regular (s : Session) : Prop where
  compiled : s.ruleset.catalogue.Compiled
  covers : s.ruleset.catalogue.Covers s.board
  unasked : s.hooks = none ∨ ∀ e ∈ s.ruleset.catalogue.entries, e.2.extraMoves = none

variable {s t : Session} {color : Color} {m : Move} {e : Error}

theorem settle_eq (running : s.outcome = .inProgress) (mover : Color) (terminal : TerminalState) :
    ∃ notes, s.settle mover terminal = { s with outcome := .behind mover terminal, notes } := by
  cases terminal with
  | playable => exact ⟨s.notes, by simp [settle, Outcome.behind, ← running]⟩
  | checkmated => exact ⟨_, rfl⟩
  | stalemated => exact ⟨_, rfl⟩

namespace Regular

variable (regular : s.Regular)
include regular

/-- Hooks that nobody is asked make no difference to the legal moves. -/
theorem legalMoves_eq (color : Color) :
    s.legalMoves color = VariantChess.legalMoves s.ruleset.catalogue s.board color none := by
  rw [Session.legalMoves, VariantChess.legalMoves, VariantChess.legalMoves]
  rcases regular.unasked with unhooked | unnamed
  · rw [extraMoves, unhooked, Option.map_none]
  · rw [pseudoLegalMoves_eq_of_unnamed unnamed]

theorem terminalState_eq (color : Color) :
    s.terminalState color = VariantChess.terminalState s.ruleset.catalogue s.board color none := by
  have same := regular.legalMoves_eq color
  rw [Session.legalMoves] at same
  rw [Session.terminalState, VariantChess.terminalState, same]
  rfl

theorem exists_legalMoves (color : Color) :
    ∃ moves, s.legalMoves color = .of (.ok moves) ∧ ∀ m, m ∈ moves ↔
      Geometric s.ruleset.catalogue s.board color m ∧ ∃ after captured,
        s.board.play m = .ok (after, captured) ∧ ¬ s.ruleset.catalogue.Threatened after color := by
  rw [regular.legalMoves_eq]
  exact VariantChess.exists_legalMoves regular.compiled regular.covers color

/-- A move that is refused leaves the session as it was. -/
theorem check_error (refused : s.check color m = (t, .error e)) :
    t = s ∧ ∃ fault, e = .move fault (some m) := by
  obtain ⟨moves, hmoves, -⟩ := regular.exists_legalMoves color
  rw [check, hmoves] at refused
  split at refused
  · cases refused
    exact ⟨rfl, _, rfl⟩
  · simp only [Report.of, noted_nil] at refused
    split at refused <;> cases refused
    exact ⟨rfl, _, rfl⟩

/-- A move that is accepted is legal, and the session stays what it was. -/
theorem check_ok (accepted : s.check color m = (t, .ok ())) :
    t = s ∧ s.outcome = .inProgress ∧
      ∃ moves, VariantChess.legalMoves s.ruleset.catalogue s.board color none = .of (.ok moves) ∧
        m ∈ moves := by
  obtain ⟨running, moves, hmoves, hm⟩ := Session.check_ok accepted
  obtain ⟨moves', legal, -⟩ := regular.exists_legalMoves color
  obtain rfl : moves' = moves := by simpa [legal, Report.of] using hmoves
  refine ⟨?_, Outcome.eq_inProgress_of_running running, moves', regular.legalMoves_eq color ▸ legal, hm⟩
  rw [check, legal, if_neg (by rw [running]; exact Bool.false_ne_true)] at accepted
  exact ((Prod.mk.inj accepted).1.symm.trans noted_nil)

/-- A move that is accepted can be played. -/
theorem exists_playOn (accepted : s.check color m = (t, .ok ())) :
    ∃ piece kind after captured notes,
      t.playOn color m = ({ s with board := after, notes }, .ok (piece, kind, captured)) ∧
      s.board.cell m.origin = some piece ∧ piece.color = color ∧
      Geometric s.ruleset.catalogue s.board color m ∧ s.board.play m = .ok (after, captured) ∧
      ¬ s.ruleset.catalogue.Threatened after color := by
  obtain ⟨rfl, -, moves, legal, hm⟩ := regular.check_ok accepted
  obtain ⟨moves', legal', hmem⟩ := VariantChess.exists_legalMoves regular.compiled regular.covers color
  obtain rfl : moves' = moves := by simpa [legal, Report.of] using legal'.symm
  obtain ⟨geometric, after, captured, hplay, safe⟩ := (hmem m).1 hm
  obtain ⟨piece, hp, hcolor, leads⟩ := geometric
  obtain ⟨kind, hlookup, -⟩ := Catalogue.exists_lookup (regular.covers.symbol_mem hp)
  refine ⟨piece, kind, after, captured, t.notes ++ [.event (.played color m captured)], ?_, hp, hcolor,
    ⟨piece, hp, hcolor, leads⟩, hplay, safe⟩
  simp only [playOn, hp, hplay, hlookup, logged, noted]

/-- The turn of a side in the turn order can be passed on. -/
theorem exists_passTurn (running : s.outcome = .inProgress) (hcolor : color ∈ s.ruleset.colors) :
    ∃ next terminal notes,
      s.passTurn color = ({ s with outcome := .behind color terminal, notes }, .ok (next, terminal)) ∧
      s.ruleset.nextColor color = .ok next ∧
      (VariantChess.terminalState s.ruleset.catalogue s.board next none).result = .ok terminal := by
  obtain ⟨next, hnext⟩ := Ruleset.exists_nextColor_iff.2 hcolor
  obtain ⟨terminal, hterminal⟩ := exists_terminalState regular.compiled regular.covers next
  have state : (s.terminalState next).result = .ok terminal := by
    rw [regular.terminalState_eq]
    exact hterminal
  have running' : (s.noted (s.terminalState next).notes).outcome = .inProgress := running
  obtain ⟨notes, settled⟩ := settle_eq running' color terminal
  refine ⟨next, terminal, notes, ?_, hnext, hterminal⟩
  rw [passTurn, hnext]
  simp only [running, Outcome.isOver, Bool.false_eq_true, ↓reduceIte, state, settled]
  rfl

end Regular

end VariantChess.Session
