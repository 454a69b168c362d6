import VariantChess.Proofs.Defects
import VariantChess.Proofs.Game.Chronicle
import VariantChess.Proofs.Game.Nesting
import VariantChess.Proofs.Game.Refusals
import VariantChess.Proofs.Game.Verdicts

/-!
# In which order moves are recorded

A move is played before the hooks of its piece run and recorded behind them, and the listeners hear of
it once it is recorded. So the moves that the hooks of a move submit are played after it and recorded
before it, and those that its listeners submit are played and recorded after it. `Plays` is the tree of
the moves of a run, in which every move has those of its hooks inside it and all others behind it: the log
tells of them in the one order (`Plays.applied`), the history in the other (`Plays.recorded`), and the
board follows the log (`Session.grows_after`). The two orders are the same if no move that a hook submits
is played.
-/

namespace VariantChess

/-- Moves with those that were submitted inside them. -/
inductive Plays where
  | nil
  /-- A move, what has been played inside its hooks, and what has been played behind it. -/
  | node (color : Color) (move : Move) (inside behind : Plays)

namespace Plays

/-- The moves in the order in which they are played. -/
def applied : Plays → List (Color × Move)
  | nil => []
  | node color move inside behind => (color, move) :: (inside.applied ++ behind.applied)

/-- The moves in the order in which they are recorded. -/
def recorded : Plays → List (Color × Move)
  | nil => []
  | node color move inside behind => inside.recorded ++ (color, move) :: behind.recorded

def append : Plays → Plays → Plays
  | nil, later => later
  | node color move inside behind, later => node color move inside (behind.append later)

/-- All of them, one after the other. -/
def join : List Plays → Plays := List.foldr append nil

/-- No move has been played inside another one. -/
def Flat : Plays → Prop
  | nil => True
  | node _ _ inside behind => inside = nil ∧ behind.Flat

variable {plays later : Plays}

theorem append_nil (plays : Plays) : plays.append nil = plays := by
  induction plays with
  | nil => rfl
  | node color move inside behind _ ih => rw [append, ih]

theorem applied_append (plays later : Plays) :
    (plays.append later).applied = plays.applied ++ later.applied := by
  induction plays with
  | nil => rfl
  | node color move inside behind _ ih => simp [append, applied, ih]

theorem recorded_append (plays later : Plays) :
    (plays.append later).recorded = plays.recorded ++ later.recorded := by
  induction plays with
  | nil => rfl
  | node color move inside behind _ ih => simp [append, recorded, ih]

theorem join_append (front behind : List Plays) :
    join (front ++ behind) = (join front).append (join behind) := by
  induction front with
  | nil => rfl
  | cons plays front ih =>
    have assoc (a b c : Plays) : (a.append b).append c = a.append (b.append c) := by
      induction a with
      | nil => rfl
      | node color move inside behind _ ih => rw [append, append, append, ih]
    rw [List.cons_append, join, List.foldr_cons, ← join, ih, ← assoc]
    rfl

theorem recorded_perm (plays : Plays) : plays.recorded.Perm plays.applied := by
  induction plays with
  | nil => exact .nil
  | node color move inside behind ihInside ihBehind =>
    exact List.perm_middle.trans ((ihInside.append ihBehind).cons _)

theorem Flat.recorded_eq (flat : plays.Flat) : plays.recorded = plays.applied := by
  induction plays with
  | nil => rfl
  | node color move inside behind _ ih =>
    obtain ⟨rfl, flat⟩ := flat
    rw [recorded, applied, ih flat]
    rfl

/-- Where no move is played twice, the two orders are the same only if no move is played inside another
one: the first move inside would be recorded before the one that is played first. -/
theorem flat_of_recorded_eq (nodup : plays.applied.Nodup) (same : plays.recorded = plays.applied) :
    plays.Flat := by
  induction plays with
  | nil => trivial
  | node color move inside behind _ ih =>
    rw [applied, List.nodup_cons] at nodup
    obtain ⟨unrepeated, nodup⟩ := nodup
    rw [recorded, applied] at same
    cases inside with
    | nil =>
      simp only [recorded, applied, List.nil_append, List.cons.injEq, true_and] at same nodup
      exact ⟨rfl, ih nodup same⟩
    | node color' move' inside' behind' =>
      have first : (color, move) ∈ (node color' move' inside' behind').recorded := by
        generalize hfront : (node color' move' inside' behind').recorded = front at same
        cases front with
        | nil => simp [recorded] at hfront
        | cons play front =>
          rw [List.cons_append, List.cons.injEq] at same
          exact List.mem_cons.2 (.inl same.1.symm)
      exact absurd (List.mem_append_left _ ((recorded_perm _).mem_iff.1 first)) unrepeated

end Plays

/-- The side and the move of the record. -/
def Record.play (record : Record) : Color × Move := (record.color, record.move)

/-- The moves that are played in a submission with at most this many levels of submissions inside. -/
def Submitted.plays : Nat → Submitted → Plays
  | 0, _ => .nil
  | levels + 1, c =>
    match c.played? with
    | none => .nil
    | some _ =>
      .node c.color c.move (.join ((c.hooked (Session.submitNested levels)).map (plays levels)))
        (.join ((c.told (Session.submitNested levels)).map (plays levels)))

/-- The moves that are played in these calls. -/
def Session.playsIn (s : Session) (calls : List Call) : Plays :=
  .join ((s.submittedIn calls).map fun c => c.plays (c.before.tickets + 1))

/-! ### What may happen -/

/-- The action leaves the board to the moves that are submitted. -/
def Action.LeavesBoard : Action → Prop
  | .remove _ => False
  | .put _ _ => False
  | .promote _ => False
  | _ => True

/-- Hooks and listeners change the board by submitting moves only. -/
structure Session.LeavesBoard (s : Session) : Prop where
  hooks : ∀ hooks ∈ s.hooks, ∀ hook ∈ hooks.afterMove ++ hooks.afterCapture, ∀ action ∈ hook.2,
    action.LeavesBoard
  listeners : ∀ script ∈ s.moveListeners, ∀ action ∈ script, action.LeavesBoard

/-- Neither the submission nor any inside it, however deep, fails otherwise than with the refusal of a
move. -/
def Submitted.FailsByRefusal : Nat → Submitted → Prop
  | 0, _ => True
  | levels + 1, c =>
    (∀ e, (c.through (Session.submitNested (levels + 1))).2 = .error e → e.IsRefusal) ∧
      ∀ inner ∈ c.inside (Session.submitNested levels), inner.FailsByRefusal levels

/-- How submissions fail can be found out level by level. -/
instance Submitted.decideFailsByRefusal : (levels : Nat) → DecidablePred (FailsByRefusal levels)
  | 0, _ => .isTrue trivial
  | levels + 1, c =>
    have := decideFailsByRefusal levels
    inferInstanceAs (Decidable
      ((∀ e, (c.through (Session.submitNested (levels + 1))).2 = .error e → e.IsRefusal) ∧
        ∀ inner ∈ c.inside (Session.submitNested levels), inner.FailsByRefusal levels))

theorem Error.IsDefect.not_isRefusal {e : Error} (defect : e.IsDefect) : ¬ e.IsRefusal := by
  rintro ⟨fault, m, rfl⟩
  exact defect

theorem Hooks.mem_of_script? {hooks : Hooks} {occasion : Occasion} {id : String} {script : Script}
    (h : hooks.script? occasion id = some script) :
    (id, script) ∈ hooks.afterMove ++ hooks.afterCapture := by
  have mem {table : List (String × Script)} (h : table.lookup id = some script) :
      (id, script) ∈ table := by
    obtain ⟨front, behind, rfl, -⟩ := List.lookup_eq_some_iff.1 h
    simp
  cases occasion with
  | extraMoves => cases h
  | afterMove => exact List.mem_append_left _ (mem h)
  | afterCapture => exact List.mem_append_right _ (mem h)

namespace Session

variable {nested : Submission} {color : Color} {m : Move} {s t u left : Session} {script : Script}
  {piece : Piece} {kind : PieceKind} {captured : Bool} {hooked : Except Error Unit} {plays later : Plays}

/-- That the turn cannot be passed on is a defect of the game. -/
theorem isDefect_of_passTurn {e : Error} (h : s.passTurn color = (t, .error e)) : e.IsDefect := by
  rw [passTurn, Ruleset.nextColor] at h
  split at h
  · rename_i next
    split at next <;> cases next
    cases h
    trivial
  · split at h
    · cases h
    · dsimp only at h
      split at h <;> cases h
      exact defective_terminalState _ _ _ _ _ ‹_›

/-! ### Standing still -/

/-- Board and history are the same, and the log tells of no further move. -/
structure Still (s t : Session) : Prop where
  board : t.board = s.board
  history : t.history = s.history
  plays : t.plays = s.plays

theorem Still.refl (s : Session) : s.Still s := ⟨rfl, rfl, rfl⟩

theorem Still.trans (h : s.Still t) (h' : t.Still u) : s.Still u :=
  ⟨h'.board.trans h.board, h'.history.trans h.history, h'.plays.trans h.plays⟩

theorem still_noted {notes : List Note} (asides : ∀ n ∈ notes, n.IsAside) : s.Still (s.noted notes) :=
  ⟨rfl, rfl, plays_noted_asides asides⟩

theorem still_finish (outcome : Outcome) : s.Still (s.finish outcome) := by
  refine ⟨rfl, rfl, plays_noted.trans ?_⟩
  cases outcome <;> exact List.append_nil _

theorem still_of_check {result : Except Error Unit} (h : s.check color m = (t, result)) :
    s.Still t := by
  obtain ⟨notes, asides, rfl⟩ := exists_asides_of_check h
  exact still_noted asides

theorem still_of_passTurn {result : Except Error (Color × TerminalState)}
    (h : s.passTurn color = (t, result)) : s.Still t := by
  obtain ⟨notes, asides, rfl | ⟨-, outcome, -, rfl⟩⟩ := exists_asides_of_passTurn h
  · exact still_noted asides
  · exact (still_noted asides).trans (still_finish outcome)

theorem still_declareWinner (color : Color) (s : Session) : s.Still (s.declareWinner color).1 := by
  obtain same | ⟨-, same⟩ := s.declareWinner_cases color
  · rw [same]
    exact .refl s
  · rw [same]
    exact still_finish _

theorem still_ring (s : Session) : s.Still s.ring := by
  rw [Session.ring]
  split
  · refine ⟨rfl, rfl, plays_noted.trans ?_⟩
    rw [List.filterMap_eq_nil_iff.2 (by simp [Note.play?]), List.append_nil]
  · exact .refl s

theorem steps_ring (s : Session) : s.Steps s.ring := by
  rw [Session.ring]
  split
  · rename_i ended
    exact .single (.tell ended)
  · exact .refl

/-- An action that leaves the board to submissions and makes none. -/
theorem still_perform {action : Action} (h : s.submitted? action = none) (leaves : action.LeavesBoard)
    (m : Move) : s.Still (s.perform nested m action).1 := by
  cases action with
  | say tag => exact ⟨rfl, rfl, plays_noted.trans (List.append_nil _)⟩
  | declareWinner color => exact still_declareWinner color s
  | raise e => exact .refl s
  | raiseOnce ticket e =>
    rw [perform]
    split
    · exact .refl s
    · exact ⟨rfl, rfl, rfl⟩
  | submit ticket color move =>
    rw [submitted?] at h
    split at h
    · rename_i used
      rw [perform, if_pos used]
      exact .refl s
    · cases h
  | _ => exact leaves.elim

/-! ### What a game keeps -/

/-- This is kept while board and history stand still, and when a move is played, whether its turn can be
passed on or not; and where it holds, the listeners leave the board to submissions. -/
structure Enduring (P : Session → Prop) : Prop where
  still : ∀ {s t : Session}, P s → s.Steps t → s.Still t → P t
  listeners : ∀ {s : Session}, P s → ∀ script ∈ s.moveListeners, ∀ action ∈ script, action.LeavesBoard
  stranded : ∀ {levels : Nat} {color : Color} {m : Move} {s left t : Session} {piece : Piece}
    {captured : Bool} {hooked : Except Error Unit} {e : Error}, P s →
    Accepted (submitNested levels) color m s piece captured left hooked →
    left.passTurn color = (t, .error e) → P t
  recorded : ∀ {levels : Nat} {color next : Color} {m : Move} {s left passed : Session} {piece : Piece}
    {captured : Bool} {hooked : Except Error Unit} {terminal : TerminalState}, P s →
    Accepted (submitNested levels) color m s piece captured left hooked →
    left.passTurn color = (passed, .ok (next, terminal)) →
    P (passed.recording ⟨color, m, piece.symbol, captured, next, terminal⟩)

namespace Enduring

variable {P : Session → Prop} (enduring : Enduring P)
include enduring

section
variable {levels : Nat} (inner : ∀ color m s, P s → P (submitNested levels color m s).1)
include inner

/-- What a listener runs keeps it, if what it submits does. -/
theorem perform {action : Action} (leaves : action.LeavesBoard) (h : P s) :
    P (s.perform (submitNested levels) m action).1 := by
  cases made : s.submitted? action with
  | none =>
    exact enduring.still h (steps_perform (steps_submitNested levels) m action s) (still_perform made leaves m)
  | some c =>
    obtain ⟨ticket, before⟩ := exists_before_of_submitted? made
    rw [(perform_of_submitted? (submitNested levels) made m).1]
    refine inner c.color c.move c.before ?_
    rw [before]
    exact enduring.still h (.single (.spend ticket)) ⟨rfl, rfl, rfl⟩

theorem announce {record : Record} (h : P (s.recording record)) :
    P (s.announce (submitNested levels) record).1 := by
  have listening : ∀ action ∈ (s.recording record).moveListeners.flatten, action.LeavesBoard :=
    List.forall_mem_flatten.2 (enduring.listeners h)
  have heard : P (runScript (submitNested levels) record.move s.moveListeners.flatten
      (s.recording record)).1 :=
    runScript_keeps (fun action mem t h => enduring.perform inner (listening action mem) h) h
  obtain ⟨t, e, ran, announced⟩ | ⟨t, ran, announced⟩ := announce_cases (submitNested levels) record s
  · rw [ran] at heard
    rwa [announced]
  · rw [ran] at heard
    rw [announced]
    exact enduring.still heard (steps_ring t) (still_ring t)

end

theorem submitNested (levels : Nat) (color : Color) (m : Move) (s : Session) (h : P s) :
    P (submitNested levels color m s).1 := by
  -- the listeners submit one level further down
  induction levels generalizing color m s with
  | zero => exact h
  | succ levels ih =>
    have course := course_submitWith (Session.submitNested levels) color m s
    rw [Session.submitNested]
    generalize submitWith (Session.submitNested levels) color m s = reply at course
    cases course with
    | refused check => exact enduring.still h (steps_of_check check) (still_of_check check)
    | unplayable check play =>
      obtain rfl := playOn_error play
      exact enduring.still h (steps_of_check check) (still_of_check check)
    | stranded accepted pass => exact enduring.stranded h accepted pass
    | unheard accepted pass announced =>
      have heard := enduring.announce ih (enduring.recorded h accepted pass)
      rwa [announced] at heard
    | recorded accepted pass announced =>
      have heard := enduring.announce ih (enduring.recorded h accepted pass)
      rwa [announced] at heard

/-- Whatever is asked of the session from outside, it is kept. -/
theorem after (calls : List Call) (h : P s) : P (s.after calls) := by
  induction calls generalizing s with
  | nil => exact h
  | cons call calls ih =>
    rw [after_cons]
    refine ih ?_
    cases call with
    | submit color m => exact enduring.submitNested _ color m s h
    | declareWinner color => exact enduring.still h (steps_declareWinner color s) (still_declareWinner color s)

end Enduring

/-! ### Growing -/

/-- From one session to the other these moves are played: the board is the one that they lead to, the log
tells of them as they are applied, and the history as they are recorded. -/
structure Grows (plays : Plays) (s t : Session) : Prop where
  board : s.board.replay (plays.applied.map (·.2)) = .ok t.board
  log : t.plays = s.plays ++ plays.applied
  history : t.history.map Record.play = s.history.map Record.play ++ plays.recorded

theorem Still.grows (still : s.Still t) : Grows .nil s t where
  board := by rw [still.board]; rfl
  log := by rw [still.plays]; exact (List.append_nil _).symm
  history := by rw [still.history]; exact (List.append_nil _).symm

theorem Grows.refl (s : Session) : Grows .nil s s := (Still.refl s).grows

theorem Grows.trans (h : Grows plays s t) (h' : Grows later t u) : Grows (plays.append later) s u where
  board := by
    rw [Plays.applied_append, List.map_append, Board.replay_append, h.board]
    exact h'.board
  log := by rw [Plays.applied_append, h'.log, h.log, List.append_assoc]
  history := by rw [Plays.recorded_append, h'.history, h.history, List.append_assoc]

theorem Still.trans_grows (still : s.Still t) (h : Grows plays t u) : Grows plays s u :=
  still.grows.trans h

theorem Grows.trans_still (h : Grows plays s t) (still : t.Still u) : Grows plays s u := by
  simpa only [Plays.append_nil] using h.trans still.grows

/-- What a script plays is what its submissions play, one after the other. -/
theorem grows_runScript {tree : Submitted → Plays}
    (inside : ∀ c ∈ s.submittedBy nested m script, Grows (tree c) c.before (c.through nested).1)
    (leaves : ∀ action ∈ script, action.LeavesBoard) :
    Grows (.join ((s.submittedBy nested m script).map tree)) s (runScript nested m script s).1 := by
  induction script generalizing s with
  | nil => exact .refl s
  | cons action script ih =>
    obtain ⟨leaves, others⟩ := List.forall_mem_cons.1 leaves
    rw [submittedBy, List.forall_mem_append] at inside
    obtain ⟨first, rest⟩ := inside
    have performed : Grows (.join ((s.submitted? action).toList.map tree)) s
        (s.perform nested m action).1 := by
      cases made : s.submitted? action with
      | none => exact (still_perform made leaves m).grows
      | some c =>
        have before : s.Still c.before := by
          obtain ⟨ticket, before⟩ := exists_before_of_submitted? made
          rw [before]
          exact ⟨rfl, rfl, rfl⟩
        rw [(perform_of_submitted? nested made m).1]
        refine before.trans_grows ?_
        simpa [Plays.join, Plays.append_nil] using first c (Option.mem_toList.2 made)
    rw [submittedBy, runScript, List.map_append, Plays.join_append]
    generalize s.perform nested m action = reply at rest performed ⊢
    rcases reply with ⟨t, e | ⟨⟩⟩
    · simpa [Plays.join, Plays.append_nil] using performed
    · exact performed.trans (ih rest others)

/-- A move is played, its hooks play theirs, it is recorded, and its listeners play theirs. -/
theorem Grows.node {played noted : Session} {record : Record}
    (play : s.playOn record.color record.move = (played, .ok (piece, kind, captured)))
    (inside : Grows plays played left) (still : left.Still noted)
    (behind : Grows later (noted.recording record) t) :
    Grows (.node record.color record.move plays later) s t := by
  obtain ⟨-, after, -, hplay, rfl⟩ := playOn_ok play
  have log : left.plays = s.plays ++ [(record.color, record.move)] ++ plays.applied := by
    rw [inside.log]
    exact congrArg (· ++ _) plays_noted
  have history : left.history.map Record.play = s.history.map Record.play ++ plays.recorded :=
    inside.history
  have recorded : (noted.recording record).history.map Record.play =
      left.history.map Record.play ++ [(record.color, record.move)] := by
    rw [recording, List.map_append, still.history]
    rfl
  refine ⟨?_, ?_, ?_⟩
  · rw [Plays.applied, List.map_cons, Board.replay_cons hplay, List.map_append, Board.replay_append]
    refine bind_eq_ok_iff.2 ⟨left.board, inside.board, ?_⟩
    rw [← still.board]
    exact behind.board
  · rw [behind.log, Plays.applied, ← List.singleton_append, ← List.append_assoc, ← List.append_assoc,
      ← log, ← still.plays]
    rfl
  · rw [behind.history, recorded, history, Plays.recorded]
    simp

theorem LeavesBoard.follows (leaves : s.LeavesBoard) (follows : s.Follows t) : t.LeavesBoard where
  hooks := by rw [follows.hooks]; exact leaves.hooks
  listeners := by rw [follows.moveListeners]; exact leaves.listeners

/-- What holds of all actions of the hooks holds of those that the hooks of a piece run. -/
theorem forall_mem_pieceScript {P : Action → Prop}
    (h : ∀ hooks ∈ s.hooks, ∀ hook ∈ hooks.afterMove ++ hooks.afterCapture, ∀ action ∈ hook.2, P action)
    (kind : PieceKind) (captured : Bool) : ∀ action ∈ s.pieceScript kind captured, P action := by
  cases given : s.hooks with
  | none => simp [Session.pieceScript, given]
  | some hooks =>
    have known {occasion : Occasion} {id : String} {script : Script}
        (hid : hooks.script? occasion id = some script) : ∀ action ∈ script, P action :=
      h hooks given _ (Hooks.mem_of_script? hid)
    have capturing : ∀ action ∈ (if captured then
        (kind.afterCapture.bind (hooks.script? .afterCapture)).getD [] else []), P action := by
      split
      · cases hscript : kind.afterCapture.bind (hooks.script? .afterCapture) with
        | none => simp
        | some script =>
          obtain ⟨id, -, hid⟩ := Option.bind_eq_some_iff.1 hscript
          exact known hid
      · simp
    rw [Session.pieceScript, given]
    dsimp only
    split
    · exact capturing
    · split
      · simp
      · rename_i script hscript
        exact List.forall_mem_append.2 ⟨known hscript, capturing⟩

section
variable {levels : Nat} {c : Submitted}

theorem plays_of_played? {played : Session} {moved : Piece × PieceKind × Bool}
    (h : c.played? = some (played, moved)) (levels : Nat) :
    c.plays (levels + 1) = .node c.color c.move
      (.join ((c.hooked (submitNested levels)).map (Submitted.plays levels)))
      (.join ((c.told (submitNested levels)).map (Submitted.plays levels))) := by
  rw [Submitted.plays, h]

section
variable {played passed : Session} {next : Color} {terminal : TerminalState}
  (leaves : c.before.LeavesBoard)
  (inside : ∀ inner ∈ c.inside (submitNested levels), inner.before.LeavesBoard →
    Grows (inner.plays levels) inner.before (inner.through (submitNested levels)).1)
include leaves inside

/-- A script that runs inside a submission plays what the submissions in it play. -/
theorem grows_scripted (front : c.before.Steps s) (leaving : ∀ action ∈ script, action.LeavesBoard)
    (made : ∀ inner ∈ s.submittedBy (submitNested levels) c.move script,
      inner ∈ c.inside (submitNested levels)) :
    Grows (.join ((s.submittedBy (submitNested levels) c.move script).map (Submitted.plays levels))) s
      (runScript (submitNested levels) c.move script s).1 := by
  refine grows_runScript (fun inner hinner => inside inner (made inner hinner) ?_) leaving
  obtain ⟨before, -⟩ := steps_of_mem_submittedBy (steps_submitNested levels) hinner
  exact leaves.follows (Steps.follows (front.trans before))

theorem grows_hooked (hplayed : c.played? = some (played, piece, kind, captured))
    (hooks : played.runPieceHooks (submitNested levels) kind c.move captured = (left, hooked)) :
    Grows (.join ((c.hooked (submitNested levels)).map (Submitted.plays levels))) played left := by
  obtain ⟨-, -, -, front⟩ := steps_of_played? hplayed
  have made : c.hooked (submitNested levels) =
      played.submittedBy (submitNested levels) c.move (played.pieceScript kind captured) := by
    simp only [Submitted.hooked, hplayed]
  have leaving := forall_mem_pieceScript (leaves.follows front.follows).hooks kind captured
  have run := grows_scripted leaves inside front leaving
    fun inner hinner => List.mem_append_left _ (made ▸ hinner)
  rw [made]
  obtain ⟨ran, -⟩ | ⟨notes, e, asides, -, rfl⟩ := runPieceHooks_cases hooks
  · rwa [ran] at run
  · exact run.trans_still (still_noted asides)

theorem grows_told
    (accepted : Accepted (submitNested levels) c.color c.move c.before piece captured left hooked)
    (pass : left.passTurn c.color = (passed, .ok (next, terminal))) :
    Grows (.join ((c.told (submitNested levels)).map (Submitted.plays levels)))
      (passed.recording ⟨c.color, c.move, piece.symbol, captured, next, terminal⟩)
      (passed.announce (submitNested levels)
        ⟨c.color, c.move, piece.symbol, captured, next, terminal⟩).1 := by
  have made := told_of_passTurn accepted pass
  have behind : c.before.Steps
      (passed.recording ⟨c.color, c.move, piece.symbol, captured, next, terminal⟩) :=
    (accepted.steps_of_passTurn (steps_submitNested levels) pass).tail (.record _)
  have listening : ∀ action ∈ passed.moveListeners.flatten, action.LeavesBoard :=
    List.forall_mem_flatten.2 (leaves.follows (Steps.follows behind)).listeners
  have run := grows_scripted leaves inside behind listening
    fun inner hinner => List.mem_append_right _ (made ▸ hinner)
  rw [made]
  obtain ⟨t, e, ran, announce⟩ | ⟨t, ran, announce⟩ := announce_cases (submitNested levels)
    ⟨c.color, c.move, piece.symbol, captured, next, terminal⟩ passed
  · rw [ran] at run
    rwa [announce]
  · rw [ran] at run
    rw [announce]
    exact run.trans_still (still_ring t)

/-- A move that is accepted, and whose turn can be passed on, is played and recorded with all that is
played inside, if those inside play the moves of their trees. -/
theorem grows_announce
    (accepted : Accepted (submitNested levels) c.color c.move c.before piece captured left hooked)
    (pass : left.passTurn c.color = (passed, .ok (next, terminal))) :
    Grows (c.plays (levels + 1)) c.before (passed.announce (submitNested levels)
      ⟨c.color, c.move, piece.symbol, captured, next, terminal⟩).1 := by
  obtain ⟨played, kind, hplayed, hooks⟩ := played?_of_accepted accepted
  obtain ⟨checked, check, play, -⟩ := steps_of_played? hplayed
  rw [plays_of_played? hplayed]
  exact (still_of_check check).trans_grows (Grows.node play (grows_hooked leaves inside hplayed hooks)
    (still_of_passTurn pass) (grows_told leaves inside accepted pass))

end

/-- A submission plays the moves of its tree, unless it fails otherwise than with a refusal. -/
theorem grows_through (levels : Nat) (c : Submitted) (leaves : c.before.LeavesBoard)
    (fails : c.FailsByRefusal levels) :
    Grows (c.plays levels) c.before (c.through (submitNested levels)).1 := by
  induction levels generalizing c with
  | zero => exact .refl _
  | succ levels ih =>
    obtain ⟨refusal, inside⟩ := fails
    have trees : ∀ inner ∈ c.inside (submitNested levels), inner.before.LeavesBoard →
        Grows (inner.plays levels) inner.before (inner.through (submitNested levels)).1 :=
      fun inner hinner leaves => ih inner leaves (inside inner hinner)
    have course := course_submitWith (submitNested levels) c.color c.move c.before
    rw [Submitted.through, submitNested] at refusal ⊢
    generalize submitWith (submitNested levels) c.color c.move c.before = reply at course refusal
    cases course with
    | refused check =>
      have unplayed : c.plays (levels + 1) = .nil := by simp [Submitted.plays, Submitted.played?, check]
      rw [unplayed]
      exact (still_of_check check).grows
    | unplayable check play =>
      have unplayed : c.plays (levels + 1) = .nil := by
        simp [Submitted.plays, Submitted.played?, check, play]
      obtain rfl := playOn_error play
      rw [unplayed]
      exact (still_of_check check).grows
    | stranded accepted pass =>
      exact absurd (refusal _ rfl) (isDefect_of_passTurn pass).not_isRefusal
    | unheard accepted pass announce =>
      simpa only [announce] using grows_announce leaves trees accepted pass
    | recorded accepted pass announce =>
      simpa only [announce] using grows_announce leaves trees accepted pass

end

theorem grows_after {calls : List Call} (leaves : s.LeavesBoard)
    (fails : ∀ c ∈ s.submittedIn calls, c.FailsByRefusal (c.before.tickets + 1)) :
    Grows (s.playsIn calls) s (s.after calls) := by
  induction calls generalizing s with
  | nil => exact .refl s
  | cons call calls ih =>
    have later : (s.make call).LeavesBoard := leaves.follows (Steps.follows (s.steps_make call))
    rw [after_cons]
    cases call with
    | submit color m =>
      rw [submittedIn, List.forall_mem_cons] at fails
      exact (grows_through _ ⟨s, color, m⟩ leaves fails.1).trans (ih later fails.2)
    | declareWinner color =>
      exact (still_declareWinner color s).trans_grows (ih later fails)

/-- In a game whose hooks and listeners change the board by submitting moves only, and in which no
submission fails otherwise than with the refusal of a move, the board is the one to which the moves lead
in the order in which they were played. The history has the same moves in the order of the records: if
nothing has been played inside a hook, it is the same order, so that the history leads to the board; and
where no move is played twice, it is the same order only then. -/
theorem history_in_order_iff {start : Session} (fresh : start.Fresh) (leaves : start.LeavesBoard)
    {calls : List Call}
    (fails : ∀ c ∈ start.submittedIn calls, c.FailsByRefusal (c.before.tickets + 1)) :
    (start.after calls).plays = (start.playsIn calls).applied ∧
    (start.after calls).history.map Record.play = (start.playsIn calls).recorded ∧
    start.board.replay ((start.after calls).plays.map (·.2)) = .ok (start.after calls).board ∧
    ((start.playsIn calls).Flat →
      (start.after calls).history.map Record.play = (start.after calls).plays ∧
      start.board.replay ((start.after calls).history.map (·.move)) = .ok (start.after calls).board) ∧
    ((start.after calls).plays.Nodup →
      (start.after calls).history.map Record.play = (start.after calls).plays →
      (start.playsIn calls).Flat) := by
  obtain ⟨board, log, history⟩ := grows_after leaves fails
  have unplayed : start.plays = [] := by rw [plays, fresh.notes]; rfl
  rw [unplayed, List.nil_append] at log
  rw [fresh.history, List.map_nil, List.nil_append] at history
  have replayed : start.board.replay ((start.after calls).plays.map (·.2)) =
      .ok (start.after calls).board := by rwa [log]
  refine ⟨log, history, replayed, fun flat => ?_, fun nodup same => ?_⟩
  · have same : (start.after calls).history.map Record.play = (start.after calls).plays := by
      rw [history, log, flat.recorded_eq]
    refine ⟨same, ?_⟩
    rw [← replayed, ← same, List.map_map]
    rfl
  · rw [log] at nodup same
    exact Plays.flat_of_recorded_eq nodup (history.symm.trans same)

end Session

/-- Two rooks, who have a hook for their moves. -/
def relay : Ruleset :=
  { duel with
    name := "relay"
    catalogue := {
      entries := [
        ("r", {
          name := "rook", rules := [.mk {} [.heading .orthogonal] none], afterMove := some "again" })] }
    board := .ofRows [
      [some ⟨"r", .white, false⟩, none, none],
      [some ⟨"r", .black, false⟩, none, none]]
    symbol_mem := by decide }

/-- The hook submits a move that is refused, because the rook has gone, and the listener moves on with
it. -/
def relayListening : Session where
  ruleset := relay
  hooks := some { afterMove := [("again", [.submit 0 .white ⟨⟨0, 0⟩, ⟨1, 0⟩⟩])] }
  moveListeners := [[.submit 1 .white ⟨⟨1, 0⟩, ⟨2, 0⟩⟩]]
  board := relay.board

/-- The moves are recorded in their order, and the history leads to the board. -/
theorem history_in_order_iff_relay :
    let calls : List Call := [.submit .white ⟨⟨0, 0⟩, ⟨1, 0⟩⟩, .submit .black ⟨⟨0, 1⟩, ⟨1, 1⟩⟩]
    let s := relayListening.after calls
    relayListening.Fresh ∧ relayListening.LeavesBoard ∧
    (∀ c ∈ relayListening.submittedIn calls, c.FailsByRefusal (c.before.tickets + 1)) ∧
    s.history.length = 3 ∧ (relayListening.playsIn calls).Flat ∧
    s.plays = (relayListening.playsIn calls).applied ∧
    s.history.map Record.play = (relayListening.playsIn calls).recorded ∧
    relayListening.board.replay (s.plays.map (·.2)) = .ok s.board ∧
    ((relayListening.playsIn calls).Flat → s.history.map Record.play = s.plays ∧
      relayListening.board.replay (s.history.map (·.move)) = .ok s.board) ∧
    (s.plays.Nodup → s.history.map Record.play = s.plays → (relayListening.playsIn calls).Flat) := by
  intro calls s
  have fresh : relayListening.Fresh := ⟨rfl, rfl, rfl⟩
  have leaves : relayListening.LeavesBoard := ⟨by simp [relayListening, Action.LeavesBoard],
    by simp [relayListening, Action.LeavesBoard]⟩
  have fails : ∀ c ∈ relayListening.submittedIn calls, c.FailsByRefusal (c.before.tickets + 1) := by
    decide +kernel
  have recorded : s.history.length = 3 := by decide +kernel
  have told := Session.history_in_order_iff fresh leaves fails
  have nodup : s.plays.Nodup := by decide +kernel
  have same : s.history.map Record.play = s.plays := by decide +kernel
  exact ⟨fresh, leaves, fails, recorded, told.2.2.2.2 nodup same, told⟩

/-- The hook moves on with the rook. -/
def relayOpening : Session where
  ruleset := relay
  hooks := some { afterMove := [("again", [.submit 0 .white ⟨⟨1, 0⟩, ⟨2, 0⟩⟩])] }
  board := relay.board

/-- Nothing is refused, but the second move is recorded first, and the history leads nowhere. -/
theorem history_not_in_order_relay :
    let calls : List Call := [.submit .white ⟨⟨0, 0⟩, ⟨1, 0⟩⟩]
    let s := relayOpening.after calls
    relayOpening.Fresh ∧ relayOpening.LeavesBoard ∧
    (∀ c ∈ relayOpening.submittedIn calls, c.FailsByRefusal (c.before.tickets + 1)) ∧
    s.history.map (·.move) = [⟨⟨1, 0⟩, ⟨2, 0⟩⟩, ⟨⟨0, 0⟩, ⟨1, 0⟩⟩] ∧
    s.history.map Record.play ≠ s.plays ∧
    relayOpening.board.replay (s.history.map (·.move)) = .error .emptyOrigin := by
  intro calls s
  have leaves : relayOpening.LeavesBoard := ⟨by simp [relayOpening, Action.LeavesBoard],
    by simp [relayOpening]⟩
  refine ⟨⟨rfl, rfl, rfl⟩, leaves, by decide +kernel, by decide +kernel, by decide +kernel, ?_⟩
  decide +kernel

end VariantChess
