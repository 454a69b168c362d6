import VariantChess.Proofs.Game.Plays
import VariantChess.Proofs.Legality
import VariantChess.Proofs.Movement.Lasting

/-!
# Where pieces have been

In a game without hooks every piece that stands where a move has ended is marked as moved: it has come
there by a move itself, if not by that one, and no mark is taken off again (`Trail.stirred`). It goes by
what lasts of its rules, so whatever is played from such a square needs no initial rule
(`moves_by_lasting_rules`).
-/

namespace VariantChess

/-- A piece of the side stands on the origin, and its kind has the move. -/
def Catalogue.Provides (c : Catalogue) (b : Board) (color : Color) (m : Move) : Prop :=
  ∃ piece kind moves, b.cell m.origin = some piece ∧ piece.color = color ∧
    c.lookup piece.symbol = .ok kind ∧ kind.moves b piece m.origin = .ok moves ∧ m ∈ moves

/-- Whatever stands on the square has moved. -/
def Board.Stirred (b : Board) (s : Square) : Prop := ∀ piece, b.cell s = some piece → piece.hasMoved

/-- From the starting board these moves have led to this board, each provided by the kind of its piece. -/
inductive Trail (c : Catalogue) (start : Board) : List (Color × Move) → Board → Prop
  | nil : Trail c start [] start
  | concat {plays : List (Color × Move)} {before after : Board} {color : Color} {m : Move} {captured : Bool}
      (past : Trail c start plays before) (provided : c.Provides before color m)
      (play : before.play m = .ok (after, captured)) : Trail c start (plays ++ [(color, m)]) after

variable {c : Catalogue} {b before after start board : Board} {color : Color} {m : Move} {s : Square}
  {captured : Bool} {plays earlier later : List (Color × Move)} {moves : List Move}

/-! ### Moves that are provided -/

theorem provides_of_geometricMoves (h : geometricMoves c b color = .ok moves) (hm : m ∈ moves) :
    c.Provides b color m := by
  obtain ⟨⟨origin, piece⟩, mem, found, hfound, hm⟩ := (mem_of_gather h).1 hm
  obtain ⟨cell, side⟩ := Board.mem_piecesOf.1 mem
  dsimp only at hfound
  split at hfound
  · cases hfound
  · rename_i kind lookup
    obtain ⟨targets, -, htargets⟩ := map_eq_ok_iff.1 hfound
    obtain rfl : origin = m.origin := by
      rw [← htargets] at hm
      obtain ⟨d, -, rfl⟩ := List.mem_map.1 hm
      rfl
    exact ⟨piece, kind, found, cell, side, lookup, hfound, hm⟩

theorem Session.provides_of_check {s t : Session} (unhooked : s.hooks = none)
    (h : s.check color m = (t, .ok ())) : s.ruleset.catalogue.Provides s.board color m := by
  obtain ⟨-, legal, hlegal, hm⟩ := check_ok h
  have unasked : s.extraMoves = none := by rw [extraMoves, unhooked, Option.map_none]
  rw [Session.legalMoves, unasked] at hlegal
  cases hfound : geometricMoves s.ruleset.catalogue s.board color with
  | error e => simp [VariantChess.legalMoves, pseudoLegalMoves, hfound, Report.of, bind] at hlegal
  | ok found =>
    have legal := sublist_legalMoves (pseudoLegalMoves_of_geometricMoves hfound) hlegal
    exact provides_of_geometricMoves hfound (Move.mem_sort.1 (legal.subset hm))

/-! ### Squares where a move has ended -/

/-- A move marks the piece that it moves, and leaves the marks of all others. -/
theorem Board.stirred_of_play (play : before.play m = .ok (after, captured))
    (h : s = m.destination ∨ before.Stirred s) : after.Stirred s := by
  obtain ⟨-, -, -, mover, cell, -, -⟩ := Board.play_eq_ok_iff.1 play
  intro piece hpiece
  rw [Board.cell_of_play play cell] at hpiece
  split at hpiece
  · cases hpiece
    rfl
  · rename_i elsewhere
    split at hpiece
    · cases hpiece
    · exact h.resolve_left elsewhere piece hpiece

namespace Trail

theorem stirred (trail : Trail c start plays board) (ended : ∃ play ∈ plays, play.2.destination = s) :
    board.Stirred s := by
  induction trail with
  | nil => simp at ended
  | @concat plays before after color m captured past provided play ih =>
    refine Board.stirred_of_play play ?_
    obtain ⟨last, mem, rfl⟩ := ended
    rcases List.mem_append.1 mem with mem | mem
    · exact .inr (ih ⟨last, mem, rfl⟩)
    · rw [List.mem_singleton.1 mem]
      exact .inl rfl

theorem replay (trail : Trail c start plays board) : start.replay (plays.map (·.2)) = .ok board := by
  induction trail with
  | nil => rfl
  | concat _ _ play ih =>
    rw [List.map_append, Board.replay_append, ih]
    exact Board.replay_cons play []

/-- The moves before any one of them are a trail too. -/
theorem exists_past (trail : Trail c start plays board) (h : plays = earlier ++ (color, m) :: later) :
    ∃ before, Trail c start earlier before ∧ c.Provides before color m := by
  induction trail generalizing later with
  | nil => simp at h
  | @concat plays before after color' m' captured past provided play ih =>
    -- the trail grows at its end, so it is the end of the list that is looked at
    rcases later.eq_nil_or_concat with rfl | ⟨later, last, rfl⟩
    · obtain ⟨rfl, rfl, rfl⟩ : plays = earlier ∧ color' = color ∧ m' = m := by simpa using h
      exact ⟨before, past, provided⟩
    · rw [List.concat_eq_append, ← List.cons_append, ← List.append_assoc] at h
      obtain ⟨hpast, -⟩ := List.append_inj' h rfl
      exact ih hpast

end Trail

/-! ### Games without hooks -/

namespace Session

variable {start s t left : Session} {nested : Submission} {piece : Piece} {hooked : Except Error Unit}

/-- A game without hooks. Nobody but a hook may edit the board, so the listeners leave it to the moves that
they submit. -/
structure HookFree (s : Session) : Prop where
  hooks : s.hooks = none
  listeners : ∀ script ∈ s.moveListeners, ∀ action ∈ script, action.LeavesBoard

/-- A later session of the game, to whose board the moves played since have led. -/
structure Trailed (start s : Session) : Prop where
  steps : start.Steps s
  trail : ∃ plays, s.plays = start.plays ++ plays ∧
    Trail start.ruleset.catalogue start.board plays s.board

theorem Trailed.refl (start : Session) : start.Trailed start :=
  ⟨.refl, [], (List.append_nil _).symm, .nil⟩

theorem Trailed.of_still (trailed : start.Trailed s) (steps : s.Steps t) (still : s.Still t) :
    start.Trailed t := by
  refine ⟨trailed.steps.trans steps, ?_⟩
  rw [still.plays, still.board]
  exact trailed.trail

namespace HookFree

variable (free : start.HookFree)
include free

/-- Once a move has been accepted it is played, and no hook runs. -/
theorem trailed_of_accepted (inside : ∀ color m (t : Session), t.Steps (nested color m t).1)
    (trailed : start.Trailed s) (accepted : Accepted nested color m s piece captured left hooked) :
    start.Trailed left := by
  have steps := accepted.steps inside
  obtain ⟨checked, played, kind, check, play, hooks⟩ := accepted.exists_stages
  have given : s.hooks = none := trailed.steps.follows.hooks.trans free.hooks
  have provided := provides_of_check given check
  have still := still_of_check check
  have checking := (steps_of_check check).follows
  obtain ⟨-, after, -, hplay, rfl⟩ := playOn_ok play
  have idle := hooks.symm.trans (runPieceHooks_of_unhooked (.inl (checking.hooks.trans given)))
  obtain rfl : left = _ := congrArg Prod.fst idle
  obtain ⟨plays, log, trail⟩ := trailed.trail
  refine ⟨trailed.steps.trans steps, plays ++ [(color, m)], ?_, ?_⟩
  · rw [← List.append_assoc, ← log, ← still.plays]
    exact plays_noted
  · rw [trailed.steps.follows.ruleset] at provided
    rw [still.board] at hplay
    exact .concat trail provided hplay

theorem enduring : Enduring start.Trailed where
  still trailed steps still := trailed.of_still steps still
  listeners trailed := by
    rw [trailed.steps.follows.moveListeners]
    exact free.listeners
  stranded trailed accepted pass :=
    (free.trailed_of_accepted (steps_submitNested _) trailed accepted).of_still
      (steps_of_passTurn pass) (still_of_passTurn pass)
  recorded trailed accepted pass := by
    have passed := (free.trailed_of_accepted (steps_submitNested _) trailed accepted).of_still
      (steps_of_passTurn pass) (still_of_passTurn pass)
    exact ⟨passed.steps.tail (.record _), passed.trail⟩

end HookFree

end Session

/-- A piece that has moved has the moves of what lasts of its rules, and one that has not moved has those of
its rules with no part of them initial. So in a game without hooks, whose listeners leave the board to the
moves that they submit, whatever is played from a square where a move has ended is a move of what lasts of
the rules of its piece. -/
theorem moves_by_lasting_rules :
    (∀ (kind : PieceKind) (b : Board) (piece : Piece) (origin : Square),
      (piece.hasMoved → kind.moves b piece origin = kind.lasting.moves b piece origin) ∧
      (¬ piece.hasMoved → kind.moves b piece origin = kind.unrestricted.moves b piece origin)) ∧
    ∀ (start : Session) (calls : List Call) (earlier later : List (Color × Move)) (color : Color) (m : Move),
      start.HookFree → (start.after calls).plays = start.plays ++ (earlier ++ (color, m) :: later) →
      (∃ play ∈ earlier, play.2.destination = m.origin) →
      ∃ before piece kind moves, start.board.replay (earlier.map (·.2)) = .ok before ∧
        before.cell m.origin = some piece ∧ piece.color = color ∧
        start.ruleset.catalogue.lookup piece.symbol = .ok kind ∧
        kind.lasting.moves before piece m.origin = .ok moves ∧ m ∈ moves := by
  refine ⟨fun kind b piece origin => ⟨fun moved => ?_, fun unmoved => ?_⟩, ?_⟩
  · exact (kind.moves_lasting b moved origin).symm
  · exact (kind.moves_unrestricted b unmoved origin).symm
  · intro start calls earlier later color m free played ended
    obtain ⟨-, plays, log, trail⟩ := free.enduring.after calls (.refl start)
    rw [played] at log
    obtain ⟨before, past, provided⟩ := trail.exists_past (List.append_cancel_left log).symm
    obtain ⟨piece, kind, moves, cell, side, lookup, hmoves, hm⟩ := provided
    have moved : piece.hasMoved := past.stirred ended piece cell
    rw [← kind.moves_lasting before moved] at hmoves
    exact ⟨before, piece, kind, moves, past.replay, cell, side, lookup, hmoves, hm⟩

/-- A scout, whose first move may also take it two squares forward, or leap, or end with a step aside. -/
def scout : PieceKind where
  name := "scout"
  rules := [
    .mk { distance := .exact 1 }
      [.heading .forward, .group (.mk { distance := .exact 2, initial := true } [.heading .diagonal] none)]
      (some (.mk { distance := .exact 1, initial := true } [.heading .sideways] none)),
    .mk { distance := .exact 2, initial := true } [.heading .forward] none]

/-- The scout against a king. -/
def scouting : Ruleset :=
  { duel with
    name := "scouting"
    catalogue := {
      entries := [
        ("k", {
          name := "king"
          rules := [.mk { distance := .exact 1 } [.heading .all] none]
          royal := true }),
        ("s", scout)] }
    board := .ofRows [
      [some ⟨"k", .black, false⟩, none, none],
      [none, none, none],
      [none, none, none],
      [none, none, none],
      [none, some ⟨"s", .white, false⟩, none]]
    symbol_mem := by decide }

/-- A listener answers the first record with the king. -/
def scoutingOpening : Session where
  ruleset := scouting
  moveListeners := [[.submit 0 .black ⟨⟨0, 0⟩, ⟨0, 1⟩⟩]]
  board := scouting.board

/-- The scout goes forward twice, two squares and then one; two squares are refused the second time. -/
theorem moves_by_lasting_rules_scouting :
    let calls : List Call := [.submit .white ⟨⟨1, 4⟩, ⟨1, 2⟩⟩, .submit .white ⟨⟨1, 2⟩, ⟨1, 0⟩⟩,
      .submit .white ⟨⟨1, 2⟩, ⟨1, 1⟩⟩]
    let earlier : List (Color × Move) := [(.white, ⟨⟨1, 4⟩, ⟨1, 2⟩⟩), (.black, ⟨⟨0, 0⟩, ⟨0, 1⟩⟩)]
    let moved : Piece := ⟨"s", .white, true⟩
    let unmoved : Piece := ⟨"s", .white, false⟩
    scout.moves scouting.board moved ⟨1, 4⟩ = scout.lasting.moves scouting.board moved ⟨1, 4⟩ ∧
    scout.moves scouting.board unmoved ⟨1, 4⟩ = scout.unrestricted.moves scouting.board unmoved ⟨1, 4⟩ ∧
    scoutingOpening.HookFree ∧
    (scoutingOpening.after calls).plays =
      scoutingOpening.plays ++ (earlier ++ (.white, ⟨⟨1, 2⟩, ⟨1, 1⟩⟩) :: []) ∧
    (∃ play ∈ earlier, play.2.destination = ⟨1, 2⟩) ∧
    ∃ before piece kind moves, scoutingOpening.board.replay (earlier.map (·.2)) = .ok before ∧
      before.cell ⟨1, 2⟩ = some piece ∧ piece.color = .white ∧
      scouting.catalogue.lookup piece.symbol = .ok kind ∧
      kind.lasting.moves before piece ⟨1, 2⟩ = .ok moves ∧ ⟨⟨1, 2⟩, ⟨1, 1⟩⟩ ∈ moves := by
  intro calls earlier moved unmoved
  have free : scoutingOpening.HookFree := ⟨rfl, by simp [scoutingOpening, Action.LeavesBoard]⟩
  have played : (scoutingOpening.after calls).plays =
      scoutingOpening.plays ++ (earlier ++ (.white, ⟨⟨1, 2⟩, ⟨1, 1⟩⟩) :: []) := by decide +kernel
  have ended : ∃ play ∈ earlier, play.2.destination = ⟨1, 2⟩ := by decide
  obtain ⟨rules, games⟩ := moves_by_lasting_rules
  exact ⟨(rules scout scouting.board moved ⟨1, 4⟩).1 rfl,
    (rules scout scouting.board unmoved ⟨1, 4⟩).2 Bool.false_ne_true, free, played, ended,
    games scoutingOpening calls earlier [] .white ⟨⟨1, 2⟩, ⟨1, 1⟩⟩ free played ended⟩

end VariantChess
