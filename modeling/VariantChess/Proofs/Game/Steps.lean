import Mathlib.Logic.Relation
import VariantChess.Proofs.Game.Course

/-!
# The steps of a game

However deep scripts and submissions go into each other, a session changes by steps of a few kinds
only: a note is left, the board is written, a ticket is used up, a move is played or recorded, the game
ends, its listeners are told. `Step` has one constructor for each kind and carries what has been checked
before the step is taken, such as that only a running game ends. Every submission is a path of steps
(`steps_submitNested`), so what all steps keep, everything keeps.

The notes of a session are its journal. What they tell of the course of the game is picked out of them:
how it ended (`verdicts`), what was played (`plays`), and who was told of the end (`farewells`).
-/

namespace VariantChess

namespace Note

/-- The outcome that the log tells of. -/
def verdict? : Note → Option Outcome
  | .event (.won color) => some (.win color)
  | .event .drawn => some .draw
  | _ => none

/-- The side and the move that the log tells of. -/
def play? : Note → Option (Color × Move)
  | .event (.played color m _) => some (color, m)
  | _ => none

/-- The listener who was told that the game is over, and how it was said to stand. -/
def farewell? : Note → Option (String × Outcome)
  | .over tag outcome => some (tag, outcome)
  | _ => none

/-- A note that tells nothing of the course of the game. -/
structure IsAside (n : Note) : Prop where
  verdict : n.verdict? = none
  play : n.play? = none
  farewell : n.farewell? = none

end Note

/-- All notes are asides. -/
def Report.Asides {α : Type} (x : Report α) : Prop := ∀ n ∈ x.notes, n.IsAside

/-! ### Asides -/

namespace Report

variable {α β : Type} {x : Report α} {f : α → Report β}

theorem asides_pure (a : α) : (pure a : Report α).Asides := List.forall_mem_nil _

theorem asides_of (result : Except Error α) : (Report.of result).Asides := List.forall_mem_nil _

theorem asides_fail (e : Error) : (Report.fail e : Report α).Asides := List.forall_mem_nil _

theorem asides_log {event : Event} (h : (Note.event event).IsAside) : (Report.log event).Asides := by
  intro n hn
  obtain rfl := List.mem_singleton.1 hn
  exact h

theorem Asides.bind (hx : x.Asides) (hf : ∀ a, (f a).Asides) : (x >>= f).Asides := by
  intro n hn
  cases h : x.result with
  | error e => exact hx n (by simpa [Bind.bind, h] using hn)
  | ok a =>
    simp only [Bind.bind, h, List.mem_append] at hn
    rcases hn with hn | hn
    · exact hx n hn
    · exact hf a n hn

end Report

section
variable {hook : ExtraMoves} (quiet : ∀ id origin b, (hook id origin b).Asides)
include quiet

theorem asides_askedMoves (b : Board) (origin : Square) (id : String) (found : List Move) :
    (askedMoves hook b origin id found).Asides := by
  have failed : ∀ e, (failedAsking id origin found e).Asides := by
    intro e
    rw [failedAsking.eq_def]
    split
    · exact Report.asides_fail _
    · exact (Report.asides_log ⟨rfl, rfl, rfl⟩).bind fun _ => Report.asides_fail _
  intro n hn
  rw [askedMoves] at hn
  dsimp only at hn
  split at hn
  · exact quiet id origin b n hn
  · rcases List.mem_append.1 hn with hn | hn
    · exact quiet id origin b n hn
    · exact failed _ n hn

theorem asides_extendedMoves (b : Board) (asked : List (Square × String)) (found : List Move) :
    (extendedMoves hook b asked found).Asides := by
  induction asked generalizing found with
  | nil => exact Report.asides_pure _
  | cons asked rest ih => exact (asides_askedMoves quiet b _ _ _).bind fun _ => ih _

end

section
variable {hook : Option ExtraMoves} (quiet : ∀ ask ∈ hook, ∀ id origin b, (ask id origin b).Asides)
include quiet

theorem asides_legalMoves (c : Catalogue) (b : Board) (color : Color) :
    (legalMoves c b color hook).Asides := by
  refine Report.Asides.bind ?_ fun _ => Report.asides_of _
  refine (Report.asides_of _).bind fun found => ?_
  cases hook with
  | none => exact Report.asides_pure _
  | some ask => exact asides_extendedMoves (quiet ask rfl) _ _ _

theorem asides_terminalState (c : Catalogue) (b : Board) (color : Color) :
    (terminalState c b color hook).Asides := by
  refine (asides_legalMoves quiet c b color).bind fun moves => ?_
  split
  · exact Report.asides_pure _
  · refine (Report.asides_of _).bind fun inCheck => ?_
    split
    · exact (Report.asides_log ⟨rfl, rfl, rfl⟩).bind fun _ => Report.asides_pure _
    · exact (Report.asides_log ⟨rfl, rfl, rfl⟩).bind fun _ => Report.asides_pure _

end

theorem Hooks.asides_ask (hooks : Hooks) (id : String) (origin : Square) (b : Board) :
    (hooks.ask id origin b).Asides := by
  rw [ask]
  split
  · exact Report.asides_fail _
  · rename_i answer _
    intro n hn
    have silent : (answer.report origin).notes = [] := by cases answer <;> rfl
    simp only [silent, List.mem_singleton] at hn
    rw [hn]
    exact ⟨rfl, rfl, rfl⟩

namespace Session

variable {s : Session}

theorem asides_extraMoves : ∀ ask ∈ s.extraMoves, ∀ id origin b, (ask id origin b).Asides := by
  intro ask hask
  obtain ⟨hooks, -, rfl⟩ := Option.map_eq_some_iff.1 hask
  exact hooks.asides_ask

/-! ### The journal -/

/-- How the game has been said to end, every time it was. -/
def verdicts (s : Session) : List Outcome := s.notes.filterMap Note.verdict?

/-- The moves in the order in which they were played. -/
def plays (s : Session) : List (Color × Move) := s.notes.filterMap Note.play?

/-- The listeners who have been told that the game is over, in the order in which they were told. -/
def farewells (s : Session) : List (String × Outcome) := s.notes.filterMap Note.farewell?

section
variable {notes : List Note}

theorem verdicts_noted : (s.noted notes).verdicts = s.verdicts ++ notes.filterMap Note.verdict? :=
  List.filterMap_append

theorem plays_noted : (s.noted notes).plays = s.plays ++ notes.filterMap Note.play? :=
  List.filterMap_append

theorem farewells_noted : (s.noted notes).farewells = s.farewells ++ notes.filterMap Note.farewell? :=
  List.filterMap_append

variable (asides : ∀ n ∈ notes, n.IsAside)
include asides

theorem verdicts_noted_asides : (s.noted notes).verdicts = s.verdicts := by
  rw [verdicts_noted, List.filterMap_eq_nil_iff.2 fun n hn => (asides n hn).verdict, List.append_nil]

theorem plays_noted_asides : (s.noted notes).plays = s.plays := by
  rw [plays_noted, List.filterMap_eq_nil_iff.2 fun n hn => (asides n hn).play, List.append_nil]

theorem farewells_noted_asides : (s.noted notes).farewells = s.farewells := by
  rw [farewells_noted, List.filterMap_eq_nil_iff.2 fun n hn => (asides n hn).farewell, List.append_nil]

end

/-! ### Steps -/

/-- What can happen to a session at once. -/
inductive Step (s : Session) : Session → Prop
  /-- Notes are left that tell nothing of the course of the game. -/
  | note {notes : List Note} (asides : ∀ n ∈ notes, n.IsAside) : Step s (s.noted notes)
  /-- A script writes the board. -/
  | edit (board : Board) : Step s { s with board }
  | spend (ticket : Nat) : Step s { s with spent := ticket :: s.spent }
  /-- A move is played, which only a running game allows. -/
  | play {color : Color} {m : Move} {after : Board} {captured : Bool} {piece : Piece}
      (running : s.outcome.isOver = false) (cell : s.board.cell m.origin = some piece)
      (play : s.board.play m = .ok (after, captured)) :
      Step s ({ s with board := after }.logged (.played color m captured))
  | record (record : Record) : Step s { s with history := s.history ++ [record] }
  /-- The game ends, which it does only while it is running. -/
  | finish {outcome : Outcome} (running : s.outcome.isOver = false) (ended : outcome.isOver) :
      Step s (s.finish outcome)
  /-- Once it is over, the listeners are told. -/
  | tell (ended : s.outcome.isOver) :
      Step s (s.noted (s.overListeners.map fun tag => .over tag s.outcome))

/-- A path of steps. -/
abbrev Steps : Session → Session → Prop := Relation.ReflTransGen Step

variable {nested : Submission} {color : Color} {m : Move} {t : Session}

/-- A check leaves asides. -/
theorem exists_asides_of_check {result : Except Error Unit} (h : s.check color m = (t, result)) :
    ∃ notes, (∀ n ∈ notes, n.IsAside) ∧ t = s.noted notes := by
  rw [check] at h
  split at h
  · cases h
    exact ⟨[], List.forall_mem_nil _, noted_nil.symm⟩
  · dsimp only at h
    split at h <;> cases h <;> exact ⟨_, asides_legalMoves asides_extraMoves _ _ _, rfl⟩

/-- Passing the turn on leaves asides and may end a game that is running. -/
theorem exists_asides_of_passTurn {result : Except Error (Color × TerminalState)}
    (h : s.passTurn color = (t, result)) :
    ∃ notes, (∀ n ∈ notes, n.IsAside) ∧ (t = s.noted notes ∨
      s.outcome.isOver = false ∧ ∃ outcome, outcome.isOver ∧ t = (s.noted notes).finish outcome) := by
  rw [passTurn] at h
  dsimp only at h
  split at h
  · cases h
    exact ⟨[], List.forall_mem_nil _, .inl noted_nil.symm⟩
  rename_i next _
  split at h
  · cases h
    exact ⟨[], List.forall_mem_nil _, .inl noted_nil.symm⟩
  rename_i running
  refine ⟨(s.terminalState next).notes, asides_terminalState asides_extraMoves _ _ _, ?_⟩
  split at h
  · cases h
    exact .inl rfl
  · rename_i terminal _
    cases h
    cases terminal with
    | playable => exact .inl rfl
    | checkmated => exact .inr ⟨eq_false_of_ne_true running, _, rfl, rfl⟩
    | stalemated => exact .inr ⟨eq_false_of_ne_true running, _, rfl, rfl⟩

/-- Only a running game is won. -/
theorem declareWinner_cases (color : Color) (s : Session) :
    (s.declareWinner color).1 = s ∨
      s.outcome.isOver = false ∧ (s.declareWinner color).1 = s.finish (.win color) := by
  rw [declareWinner]
  split
  · exact .inl rfl
  · rename_i running
    exact .inr ⟨eq_false_of_ne_true running, rfl⟩

theorem steps_of_check {result : Except Error Unit} (h : s.check color m = (t, result)) : s.Steps t := by
  obtain ⟨notes, asides, rfl⟩ := exists_asides_of_check h
  exact .single (.note asides)

theorem steps_of_playOn {checked : Session} {moved : Piece × PieceKind × Bool}
    (hcheck : s.check color m = (checked, .ok ())) (h : checked.playOn color m = (t, .ok moved)) :
    s.Steps t := by
  have checking := steps_of_check hcheck
  obtain ⟨notes, -, rfl⟩ := exists_asides_of_check hcheck
  obtain ⟨-, after, cell, play, rfl⟩ := playOn_ok h
  exact checking.tail (.play (check_ok hcheck).1 cell play)

theorem steps_of_passTurn {result : Except Error (Color × TerminalState)}
    (h : s.passTurn color = (t, result)) : s.Steps t := by
  obtain ⟨notes, asides, rfl | ⟨running, outcome, ended, rfl⟩⟩ := exists_asides_of_passTurn h
  · exact .single (.note asides)
  · exact .tail (.single (.note asides)) (.finish running ended)

theorem steps_declareWinner (color : Color) (s : Session) : s.Steps (s.declareWinner color).1 := by
  obtain same | ⟨running, same⟩ := s.declareWinner_cases color
  · rw [same]
  · rw [same]
    exact .single (.finish running rfl)

theorem steps_write (square : Square) (cell : Cell) : s.Steps (s.write square cell).1 := by
  obtain ⟨board, same⟩ := s.exists_board_of_write square cell
  exact same ▸ .single (.edit board)

theorem steps_promote (symbol : String) (m : Move) : s.Steps (s.promote symbol m).1 := by
  obtain ⟨board, same⟩ := s.exists_board_of_promote symbol m
  exact same ▸ .single (.edit board)

section
variable (inside : ∀ color m (t : Session), t.Steps (nested color m t).1)
include inside

theorem steps_perform (m : Move) (action : Action) (s : Session) :
    s.Steps (s.perform nested m action).1 := by
  cases action with
  | say tag =>
    refine .single (.note fun n hn => ?_)
    rw [List.mem_singleton.1 hn]
    exact ⟨rfl, rfl, rfl⟩
  | declareWinner color => exact steps_declareWinner color s
  | remove place => exact steps_write _ _
  | put place cell => exact steps_write _ _
  | promote symbol => exact steps_promote symbol m
  | raise e => exact .refl
  | raiseOnce ticket e =>
    rw [perform]
    split
    · exact .refl
    · exact .single (.spend ticket)
  | submit ticket color move =>
    rw [perform]
    split
    · exact .refl
    · exact .head (.spend ticket) (inside color move _)

theorem steps_runScript (m : Move) (script : Script) (s : Session) :
    s.Steps (runScript nested m script s).1 :=
  runScript_keeps (P := s.Steps) (fun action _ _ steps => steps.trans (steps_perform inside m action _))
    .refl

theorem steps_runHook? (hooks : Hooks) (occasion : Occasion) (id : Option String) (m : Move)
    (s : Session) : s.Steps (s.runHook? nested hooks occasion id m).1 := by
  cases id with
  | none => exact .refl
  | some id =>
    have called : s.Steps (s.callHook nested hooks occasion id m).1 := by
      rw [callHook]
      split
      · exact .refl
      · exact steps_runScript inside m _ s
    rw [runHook?, runHook]
    split
    · rename_i t ht
      rwa [ht] at called
    · rename_i t e ht
      rw [ht] at called
      split
      · exact called
      · refine .tail called (.note fun n hn => ?_)
        rw [List.mem_singleton.1 hn]
        exact ⟨rfl, rfl, rfl⟩

theorem steps_runPieceHooks (kind : PieceKind) (m : Move) (captured : Bool) (s : Session) :
    s.Steps (s.runPieceHooks nested kind m captured).1 := by
  rw [runPieceHooks]
  split
  · exact .refl
  · rename_i hooks _
    have moved := steps_runHook? inside hooks .afterMove kind.afterMove m s
    split
    · rename_i t e ht
      rwa [ht] at moved
    · rename_i t ht
      rw [ht] at moved
      split
      · exact moved.trans (steps_runHook? inside hooks .afterCapture kind.afterCapture m t)
      · exact moved

theorem steps_of_announce {record : Record} {result : Except Error Unit}
    (h : s.announce nested record = (t, result)) : s.Steps t := by
  have told : s.Steps (runScripts nested record.move s.moveListeners
      { s with history := s.history ++ [record] }).1 :=
    .head (.record record) (runScripts_keeps (P := Steps { s with history := s.history ++ [record] })
      (fun _ _ action _ _ steps => steps.trans (steps_perform inside record.move action _)) .refl)
  rw [announce] at h
  dsimp only at h
  split at h
  · rename_i ht
    rw [ht] at told
    cases h
    exact told
  · rename_i ht
    rw [ht] at told
    split at h <;> cases h
    · rename_i ended
      exact .tail told (.tell ended)
    · exact told

theorem Accepted.steps {piece : Piece} {captured : Bool} {left : Session} {hooked : Except Error Unit}
    (accepted : Accepted nested color m s piece captured left hooked) : s.Steps left := by
  obtain ⟨checked, played, kind, check, play, hooks⟩ := accepted.exists_stages
  have hooking : played.Steps left := by
    simpa only [hooks] using steps_runPieceHooks inside kind m captured played
  exact (steps_of_playOn check play).trans hooking

theorem Accepted.steps_of_passTurn {piece : Piece} {captured : Bool} {left : Session}
    {hooked : Except Error Unit} {result : Except Error (Color × TerminalState)}
    (accepted : Accepted nested color m s piece captured left hooked)
    (pass : left.passTurn color = (t, result)) : s.Steps t :=
  (accepted.steps inside).trans (Session.steps_of_passTurn pass)

theorem steps_submitWith (color : Color) (m : Move) (s : Session) :
    s.Steps (submitWith nested color m s).1 := by
  have course := course_submitWith nested color m s
  generalize submitWith nested color m s = reply at course
  cases course with
  | refused check => exact steps_of_check check
  | unplayable check play =>
    obtain rfl := playOn_error play
    exact steps_of_check check
  | stranded accepted pass => exact accepted.steps_of_passTurn inside pass
  | unheard accepted pass announce =>
    exact (accepted.steps_of_passTurn inside pass).trans (steps_of_announce inside announce)
  | recorded accepted pass announce =>
    exact (accepted.steps_of_passTurn inside pass).trans (steps_of_announce inside announce)

end

theorem steps_submitNested (levels : Nat) (color : Color) (m : Move) (s : Session) :
    s.Steps (submitNested levels color m s).1 := by
  induction levels generalizing color m s with
  | zero => exact .refl
  | succ levels ih => exact steps_submitWith ih color m s

/-! ### What steps keep -/

/-- A later session of the same game: those who take part are the same, and no note has been taken
back. -/
structure Follows (s t : Session) : Prop where
  ruleset : t.ruleset = s.ruleset
  hooks : t.hooks = s.hooks
  moveListeners : t.moveListeners = s.moveListeners
  overListeners : t.overListeners = s.overListeners
  notes : s.notes <+: t.notes

@[refl] theorem Follows.refl (s : Session) : s.Follows s := ⟨rfl, rfl, rfl, rfl, List.prefix_rfl⟩

theorem Follows.trans {u : Session} (h : s.Follows t) (h' : t.Follows u) : s.Follows u :=
  ⟨h'.ruleset.trans h.ruleset, h'.hooks.trans h.hooks, h'.moveListeners.trans h.moveListeners,
    h'.overListeners.trans h.overListeners, h.notes.trans h'.notes⟩

theorem Step.follows (step : s.Step t) : s.Follows t := by
  cases step with
  | note => exact ⟨rfl, rfl, rfl, rfl, List.prefix_append _ _⟩
  | play => exact ⟨rfl, rfl, rfl, rfl, List.prefix_append _ _⟩
  | finish => exact ⟨rfl, rfl, rfl, rfl, List.prefix_append _ _⟩
  | tell => exact ⟨rfl, rfl, rfl, rfl, List.prefix_append _ _⟩
  | _ => exact ⟨rfl, rfl, rfl, rfl, List.prefix_rfl⟩

theorem Steps.follows (steps : s.Steps t) : s.Follows t := by
  induction steps with
  | refl => rfl
  | tail _ step ih => exact ih.trans step.follows

/-- Once the game is over, the outcome stays what it is. -/
theorem Steps.outcome_eq (steps : s.Steps t) (ended : s.outcome.isOver) : t.outcome = s.outcome := by
  induction steps with
  | refl => rfl
  | tail _ step ih =>
    rw [← ih] at ended
    rw [← ih]
    cases step with
    | finish running => simp [running] at ended
    | _ => rfl

/-! ### Calls from outside -/

/-- A game that has not begun and in which nothing has been noted. -/
structure Fresh (s : Session) : Prop where
  history : s.history = []
  outcome : s.outcome = .inProgress
  notes : s.notes = []

end Session

/-- What can be asked of a session from outside all scripts. -/
inductive Call where
  | submit (color : Color) (m : Move)
  | declareWinner (color : Color)

namespace Session

/-- The session that a call leaves, whether it succeeds or fails. -/
def make (s : Session) : Call → Session
  | .submit color m => (s.submit color m).1
  | .declareWinner color => (s.declareWinner color).1

/-- The session that calls leave, made one after the other. -/
def after (s : Session) (calls : List Call) : Session := calls.foldl make s

theorem after_cons (s : Session) (call : Call) (calls : List Call) :
    s.after (call :: calls) = (s.make call).after calls := rfl

theorem steps_make (s : Session) (call : Call) : s.Steps (s.make call) := by
  cases call with
  | submit color m => exact steps_submitNested _ color m s
  | declareWinner color => exact steps_declareWinner color s

theorem steps_after (s : Session) (calls : List Call) : s.Steps (s.after calls) := by
  induction calls generalizing s with
  | nil => exact .refl
  | cons call calls ih => exact (s.steps_make call).trans (ih _)

section
variable {s : Session} (ended : s.outcome.isOver)
include ended

/-- A game that is over takes no more moves. -/
theorem submit_of_isOver (color : Color) (m : Move) :
    s.submit color m = (s, .error (.move .gameOver (some m))) := by
  rw [submit, submitNested, submitWith, check, if_pos ended]

theorem declareWinner_of_isOver (color : Color) :
    s.declareWinner color = (s, .error (.move .gameOver none)) := by
  rw [declareWinner, if_pos ended]

theorem after_of_isOver (calls : List Call) : s.after calls = s := by
  induction calls with
  | nil => rfl
  | cons call calls ih =>
    have same : s.make call = s := by
      cases call with
      | submit color m => exact congrArg Prod.fst (submit_of_isOver ended color m)
      | declareWinner color => exact congrArg Prod.fst (declareWinner_of_isOver ended color)
    rw [after_cons, same, ih]

end

end Session

end VariantChess
