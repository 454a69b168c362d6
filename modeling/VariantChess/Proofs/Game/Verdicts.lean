import VariantChess.Proofs.Game.Reached
import VariantChess.Proofs.Game.Steps

/-!
# The outcome is written once

Only a running game ends, and whoever ends it leaves that in the log. So the log of a game tells of no
end as long as the game is running and of exactly one, the right one, when it is over
(`Session.Fresh.verdicts_eq`), whatever scripts and the submissions inside them do; and of a game that
is over no call from outside changes anything (`Session.outcome_written_once`).
-/

namespace VariantChess

/-- How a game that stands so has been said to end. -/
def Outcome.verdicts : Outcome → List Outcome
  | .inProgress => []
  | outcome => [outcome]

theorem Outcome.verdicts_of_isOver {outcome : Outcome} (ended : outcome.isOver) :
    outcome.verdicts = [outcome] := by
  cases outcome with
  | inProgress => cases ended
  | win color => rfl
  | draw => rfl

namespace Session

variable {s t : Session}

theorem outcome_finish (outcome : Outcome) : (s.finish outcome).outcome = outcome := rfl

theorem verdicts_finish {outcome : Outcome} (ended : outcome.isOver) :
    (s.finish outcome).verdicts = s.verdicts ++ [outcome] := by
  cases outcome with
  | inProgress => cases ended
  | win color => exact verdicts_noted
  | draw => exact verdicts_noted

theorem farewells_finish (outcome : Outcome) : (s.finish outcome).farewells = s.farewells := by
  cases outcome with
  | win color => exact farewells_noted.trans (List.append_nil _)
  | _ => exact farewells_noted.trans (List.append_nil _)

theorem farewells_round (outcome : Outcome) (tags : List String) :
    (tags.map fun tag => Note.over tag outcome).filterMap Note.farewell? =
      tags.map fun tag => (tag, outcome) := by
  simp [List.filterMap_map, Function.comp_def, Note.farewell?]

theorem Step.verdicts_eq (step : s.Step t) (h : s.verdicts = s.outcome.verdicts) :
    t.verdicts = t.outcome.verdicts := by
  cases step with
  | note asides => rw [verdicts_noted_asides asides]; exact h
  | edit board => exact h
  | spend ticket => exact h
  | record record => exact h
  | play running cell play =>
    rw [logged, verdicts_noted]
    exact (List.append_nil _).trans h
  | @finish outcome running ended =>
    have unsaid : s.verdicts = [] := by rw [h, Outcome.eq_inProgress_of_running running]; rfl
    rw [verdicts_finish ended, unsaid, outcome_finish, Outcome.verdicts_of_isOver ended]
    rfl
  | tell ended =>
    have unsaid : (s.overListeners.map fun tag => Note.over tag s.outcome).filterMap Note.verdict? = [] :=
      by simp [List.filterMap_map, Function.comp_def, Note.verdict?]
    rw [verdicts_noted, unsaid, List.append_nil]
    exact h

/-- The log tells of the end of the game once, if it is over. -/
theorem Fresh.verdicts_eq (fresh : s.Fresh) (steps : s.Steps t) : t.verdicts = t.outcome.verdicts := by
  induction steps with
  | refl => rw [verdicts, fresh.notes, fresh.outcome]; rfl
  | tail _ step ih => exact step.verdicts_eq ih

/-- Whoever has been told that the game is over, has been told how it stands now. -/
theorem Fresh.farewell_eq (fresh : s.Fresh) (steps : s.Steps t) :
    ∀ farewell ∈ t.farewells, t.outcome.isOver ∧ farewell.2 = t.outcome := by
  induction steps with
  | refl => simp [farewells, fresh.notes]
  | tail _ step ih =>
    cases step with
    | note asides => rw [farewells_noted_asides asides]; exact ih
    | edit board => exact ih
    | spend ticket => exact ih
    | record record => exact ih
    | play running cell play =>
      rw [logged, farewells_noted]
      exact List.forall_mem_append.2 ⟨ih, List.forall_mem_nil _⟩
    | @finish outcome running ended =>
      -- nobody has been told of the end of a running game
      rw [farewells_finish]
      intro farewell hmem
      exact absurd (ih farewell hmem).1 (by simp [running])
    | tell ended =>
      rw [farewells_noted, farewells_round]
      refine List.forall_mem_append.2 ⟨ih, fun farewell hmem => ?_⟩
      obtain ⟨tag, -, rfl⟩ := List.mem_map.1 hmem
      exact ⟨ended, rfl⟩

/-- In a game in which moves are submitted and winners declared, by anyone and inside any scripts, the
outcome is written at most once, everybody who is told of it is told the same, and there is a winner
exactly if it is a win. Once the game is over, every call is refused and leaves everything as it was. -/
theorem outcome_written_once {start : Session} (fresh : start.Fresh) (calls : List Call) :
    (start.after calls).verdicts = (start.after calls).outcome.verdicts ∧
    (∀ farewell ∈ (start.after calls).farewells, farewell.2 = (start.after calls).outcome) ∧
    ((start.after calls).outcome.winner?.isSome ↔ ∃ color, (start.after calls).outcome = .win color) ∧
    ((start.after calls).outcome.isOver →
      (∀ color m, (start.after calls).submit color m =
        (start.after calls, .error (.move .gameOver (some m)))) ∧
      (∀ color, (start.after calls).declareWinner color =
        (start.after calls, .error (.move .gameOver none))) ∧
      ∀ later, (start.after calls).after later = start.after calls) := by
  have steps := start.steps_after calls
  refine ⟨fresh.verdicts_eq steps, fun farewell hmem => (fresh.farewell_eq steps farewell hmem).2, ?_,
    fun ended => ⟨submit_of_isOver ended, declareWinner_of_isOver ended, after_of_isOver ended⟩⟩
  cases (start.after calls).outcome with
  | inProgress => simp [Outcome.winner?]
  | win color => simp [Outcome.winner?]
  | draw => simp [Outcome.winner?]

end Session

/-- The duel of kings and a rook, in which the kings have a hook for their moves. -/
def rush : Ruleset :=
  { duel with
    name := "rush"
    catalogue := {
      entries := [
        ("k", {
          name := "king"
          rules := [.mk { distance := .exact 1 } [.heading .all] none]
          afterMove := some "rush"
          royal := true }),
        ("r", { name := "rook", rules := [.mk {} [.heading .orthogonal] none] })] }
    symbol_mem := by decide }

/-- The hook mates with the rook and then declares the mated side the winner. -/
def rushOpening : Session where
  ruleset := rush
  hooks := some { afterMove := [("rush", [.submit 0 .white ⟨⟨2, 2⟩, ⟨2, 0⟩⟩, .declareWinner .black])] }
  overListeners := ["bell"]
  board := rush.board

/-- White's king moves, the hook mates, and what is asked for behind that is refused. -/
theorem outcome_written_once_rush :
    let calls : List Call := [.submit .white ⟨⟨0, 2⟩, ⟨1, 2⟩⟩, .declareWinner .black]
    let s := rushOpening.after calls
    rushOpening.Fresh ∧ s.outcome = .win .white ∧ s.history.length = 2 ∧
    s.verdicts = s.outcome.verdicts ∧
    (∀ farewell ∈ s.farewells, farewell.2 = s.outcome) ∧
    (s.outcome.winner?.isSome ↔ ∃ color, s.outcome = .win color) ∧
    (s.outcome.isOver →
      (∀ color m, s.submit color m = (s, .error (.move .gameOver (some m)))) ∧
      (∀ color, s.declareWinner color = (s, .error (.move .gameOver none))) ∧
      ∀ later, s.after later = s) := by
  intro calls s
  have fresh : rushOpening.Fresh := ⟨rfl, rfl, rfl⟩
  have won : s.outcome = .win .white := by decide +kernel
  have recorded : s.history.length = 2 := by decide +kernel
  exact ⟨fresh, won, recorded, Session.outcome_written_once fresh calls⟩

end VariantChess
