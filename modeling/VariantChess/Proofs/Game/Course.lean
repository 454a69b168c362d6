import VariantChess.Game.Session

/-!
# The course of a submission

A submission goes through the stages of `Session.submitWith` and can end at each of them: the move is
refused, it cannot be played, the turn cannot be passed on, a listener fails, or all goes well.
`Course` has one constructor for each end and carries what is known of the stages before it; what a
whole submission does is proved by cases on it.

Scripts run in between. What every action keeps, a run of scripts keeps; and what a submission keeps
when those inside it do, submissions of any depth keep (`submitNested_keeps`).
-/

namespace VariantChess

theorem Ruleset.exists_nextColor_iff {r : Ruleset} {color : Color} :
    (∃ next, r.nextColor color = .ok next) ↔ color ∈ r.colors := by
  have bound : (r.colors.idxOf color + 1) % r.colors.length < r.colors.length :=
    Nat.mod_lt _ (List.length_pos_iff.2 r.colors_ne_nil)
  by_cases h : color ∈ r.colors
  · simp [nextColor, Color.next?, h, List.getElem?_eq_getElem bound]
  · simp [nextColor, Color.next?, h]

namespace Session

/-! ### The stages -/

/-- The move has been accepted and played, and the hooks of the piece have run; they leave `left`. -/
structure Accepted (nested : Submission) (color : Color) (m : Move) (s : Session) (piece : Piece)
    (captured : Bool) (left : Session) (hooked : Except Error Unit) : Prop where
  exists_stages : ∃ checked played kind, s.check color m = (checked, .ok ()) ∧
    checked.playOn color m = (played, .ok (piece, kind, captured)) ∧
    played.runPieceHooks nested kind m captured = (left, hooked)

/-- How a submission can end. -/
inductive Course (nested : Submission) (color : Color) (m : Move) (s : Session) :
    Reply Record → Prop
  /-- The move is refused. -/
  | refused {t : Session} {e : Error} (check : s.check color m = (t, .error e)) :
      Course nested color m s (t, .error e)
  /-- The move is accepted but cannot be played. -/
  | unplayable {checked t : Session} {e : Error} (check : s.check color m = (checked, .ok ()))
      (play : checked.playOn color m = (t, .error e)) : Course nested color m s (t, .error e)
  /-- The move is played, but it cannot be found out who moves next and whether that side can. -/
  | stranded {left t : Session} {piece : Piece} {captured : Bool} {hooked : Except Error Unit}
      {e : Error} (accepted : Accepted nested color m s piece captured left hooked)
      (pass : left.passTurn color = (t, .error e)) : Course nested color m s (t, .error e)
  /-- The move is recorded, but a listener fails. -/
  | unheard {left passed t : Session} {piece : Piece} {captured : Bool} {hooked : Except Error Unit}
      {next : Color} {terminal : TerminalState} {e : Error}
      (accepted : Accepted nested color m s piece captured left hooked)
      (pass : left.passTurn color = (passed, .ok (next, terminal)))
      (announce : passed.announce nested ⟨color, m, piece.symbol, captured, next, terminal⟩ =
        (t, .error e)) : Course nested color m s (t, .error e)
  /-- The move is recorded and all listeners have heard of it. -/
  | recorded {left passed t : Session} {piece : Piece} {captured : Bool} {hooked : Except Error Unit}
      {next : Color} {terminal : TerminalState}
      (accepted : Accepted nested color m s piece captured left hooked)
      (pass : left.passTurn color = (passed, .ok (next, terminal)))
      (announce : passed.announce nested ⟨color, m, piece.symbol, captured, next, terminal⟩ =
        (t, .ok ())) :
      Course nested color m s
        (t, hooked.map fun _ => ⟨color, m, piece.symbol, captured, next, terminal⟩)

theorem course_submitWith (nested : Submission) (color : Color) (m : Move) (s : Session) :
    Course nested color m s (submitWith nested color m s) := by
  rw [submitWith]
  split
  · rename_i t e check
    exact .refused check
  · rename_i checked check
    split
    · rename_i t e play
      exact .unplayable check play
    · rename_i played piece kind captured play
      have accepted : Accepted nested color m s piece captured _ _ :=
        ⟨⟨checked, played, kind, check, play, rfl⟩⟩
      dsimp only
      split
      · rename_i t e pass
        exact .stranded accepted pass
      · rename_i passed next terminal pass
        split
        · rename_i t e announce
          exact .unheard accepted pass announce
        · rename_i t announce
          exact .recorded accepted pass announce

variable {s t left : Session} {nested : Submission} {color next : Color} {m : Move} {e : Error}
  {piece : Piece} {kind : PieceKind} {captured : Bool} {terminal : TerminalState} {P : Session → Prop}

/-- When all stages behind the hooks have succeeded, what is left of the hooks' failure is returned. -/
theorem Accepted.submitWith_eq {passed : Session} {hooked : Except Error Unit}
    (accepted : Accepted nested color m s piece captured left hooked)
    (pass : left.passTurn color = (passed, .ok (next, terminal)))
    (announce : passed.announce nested ⟨color, m, piece.symbol, captured, next, terminal⟩ = (t, .ok ())) :
    submitWith nested color m s =
      (t, hooked.map fun _ => ⟨color, m, piece.symbol, captured, next, terminal⟩) := by
  obtain ⟨checked, played, kind, check, play, hooks⟩ := accepted.exists_stages
  rw [submitWith, check]
  dsimp only
  rw [play]
  dsimp only
  rw [hooks]
  dsimp only
  rw [pass]
  dsimp only
  rw [announce]

@[simp] theorem noted_nil : s.noted [] = s := by simp [noted]

theorem exists_noted_of_check {result : Except Error Unit} (h : s.check color m = (t, result)) :
    ∃ notes, t = s.noted notes := by
  rw [check] at h
  split at h
  · cases h; exact ⟨[], noted_nil.symm⟩
  · dsimp only at h
    split at h <;> (cases h; exact ⟨_, rfl⟩)

theorem check_ok (h : s.check color m = (t, .ok ())) :
    s.outcome.isOver = false ∧ ∃ moves, (s.legalMoves color).result = .ok moves ∧ m ∈ moves := by
  rw [check] at h
  split at h
  · cases h
  · rename_i running
    refine ⟨by simpa using running, ?_⟩
    dsimp only at h
    split at h
    · cases h
    · rename_i moves hmoves
      by_cases hm : m ∈ moves
      · exact ⟨moves, hmoves, hm⟩
      · simp [hm] at h

theorem playOn_error (h : s.playOn color m = (t, .error e)) : t = s := by
  rw [playOn] at h
  split at h
  · split at h <;> cases h
    rfl
  · cases h; rfl
  · cases h; rfl

theorem playOn_ok (h : s.playOn color m = (t, .ok (piece, kind, captured))) :
    s.ruleset.catalogue.lookup piece.symbol = .ok kind ∧
      ∃ after, s.board.cell m.origin = some piece ∧ s.board.play m = .ok (after, captured) ∧
        t = { s with board := after }.logged (.played color m captured) := by
  rw [playOn] at h
  split at h
  · rename_i piece' after captured' hcell hplay
    split at h <;> cases h
    rename_i hlookup
    exact ⟨hlookup, after, hcell, hplay, rfl⟩
  · cases h
  · cases h

/-- Without hooks for its moves and captures nothing happens after a piece has moved. -/
theorem runPieceHooks_of_unhooked
    (unhooked : s.hooks = none ∨ kind.afterMove = none ∧ kind.afterCapture = none) :
    s.runPieceHooks nested kind m captured = (s, .ok ()) := by
  rw [runPieceHooks]
  split
  · rfl
  · rename_i hooks given
    obtain ⟨afterMove, afterCapture⟩ := unhooked.resolve_left (by simp [given])
    simp [afterMove, afterCapture, runHook?]

theorem passTurn_error (h : s.passTurn color = (t, .error e)) : ∃ notes, t = s.noted notes := by
  rw [passTurn] at h
  split at h
  · cases h; exact ⟨[], noted_nil.symm⟩
  · split at h
    · cases h
    · dsimp only at h
      split at h <;> cases h
      exact ⟨_, rfl⟩

theorem passTurn_ok (h : s.passTurn color = (t, .ok (next, terminal))) :
    s.ruleset.nextColor color = .ok next ∧
      (s.outcome.isOver ∧ terminal = .playable ∧ t = s ∨
        s.outcome.isOver = false ∧ (s.terminalState next).result = .ok terminal ∧
          ∃ notes, t = (s.noted notes).settle color terminal) := by
  rw [passTurn] at h
  split at h
  · cases h
  · rename_i next' hnext
    split at h
    · rename_i ended
      cases h
      exact ⟨hnext, .inl ⟨ended, rfl, rfl⟩⟩
    · rename_i running
      dsimp only at h
      split at h <;> cases h
      exact ⟨hnext, .inr ⟨by simpa using running, by assumption, _, rfl⟩⟩

/-- A submission that returns a record goes through all stages, and nothing fails in any of them. -/
theorem exists_stages_of_ok {record : Record} (h : submitWith nested color m s = (t, .ok record)) :
    ∃ left passed piece captured next terminal,
      Accepted nested color m s piece captured left (.ok ()) ∧
      left.passTurn color = (passed, .ok (next, terminal)) ∧
      record = ⟨color, m, piece.symbol, captured, next, terminal⟩ ∧
      passed.announce nested record = (t, .ok ()) := by
  have course := course_submitWith nested color m s
  rw [h] at course
  generalize hreply : ((t, .ok record) : Reply Record) = reply at course
  cases course with
  | @recorded left passed t' piece captured hooked next terminal accepted pass announce =>
    obtain ⟨rfl, hrecord⟩ := Prod.mk.inj hreply
    cases hooked with
    | error e => cases hrecord
    | ok done =>
      cases hrecord
      exact ⟨left, passed, piece, captured, next, terminal, accepted, pass, rfl, announce⟩
  | _ => cases hreply

/-! ### What is kept -/

theorem runScript_keeps {script : Script}
    (acts : ∀ action ∈ script, ∀ t, P t → P (t.perform nested m action).1) (h : P s) :
    P (runScript nested m script s).1 := by
  induction script generalizing s with
  | nil => exact h
  | cons action script ih =>
    obtain ⟨act, acts⟩ := List.forall_mem_cons.1 acts
    have performed := act s h
    rw [runScript]
    split
    · rename_i t e ht
      rwa [ht] at performed
    · rename_i t ht
      rw [ht] at performed
      exact ih acts performed

theorem runScripts_keeps {scripts : List Script}
    (acts : ∀ script ∈ scripts, ∀ action ∈ script, ∀ t, P t → P (t.perform nested m action).1)
    (h : P s) : P (runScripts nested m scripts s).1 := by
  induction scripts generalizing s with
  | nil => exact h
  | cons script scripts ih =>
    obtain ⟨act, acts⟩ := List.forall_mem_cons.1 acts
    have run := runScript_keeps act h
    rw [runScripts]
    split
    · rename_i t e ht
      rwa [ht] at run
    · rename_i t ht
      rw [ht] at run
      exact ih acts run

theorem runHook?_keeps (hooks : Hooks) (occasion : Occasion) (id : Option String)
    (noted : ∀ t notes, P t → P (t.noted notes))
    (acts : ∀ action t, P t → P (t.perform nested m action).1) (h : P s) :
    P (s.runHook? nested hooks occasion id m).1 := by
  cases id with
  | none => exact h
  | some id =>
    have called : P (s.callHook nested hooks occasion id m).1 := by
      rw [callHook]
      split
      · exact h
      · exact runScript_keeps (fun action _ => acts action) h
    rw [runHook?, runHook]
    split
    · rename_i t ht
      rwa [ht] at called
    · rename_i t e ht
      rw [ht] at called
      split
      · exact called
      · exact noted t _ called

theorem runPieceHooks_keeps (noted : ∀ t notes, P t → P (t.noted notes))
    (acts : ∀ action t, P t → P (t.perform nested m action).1) (h : P s) :
    P (s.runPieceHooks nested kind m captured).1 := by
  rw [runPieceHooks]
  split
  · exact h
  · rename_i hooks _
    have moved := runHook?_keeps hooks .afterMove kind.afterMove noted acts h
    split
    · rename_i t e ht
      rwa [ht] at moved
    · rename_i t ht
      rw [ht] at moved
      split
      · exact runHook?_keeps hooks .afterCapture kind.afterCapture noted acts moved
      · exact moved

theorem announce_keeps {record : Record} (noted : ∀ t notes, P t → P (t.noted notes))
    (acts : ∀ script ∈ s.moveListeners, ∀ action ∈ script, ∀ t, P t →
      P (t.perform nested record.move action).1)
    (h : P { s with history := s.history ++ [record] }) : P (s.announce nested record).1 := by
  have told := runScripts_keeps acts h
  rw [announce]
  dsimp only
  split
  · rename_i t e ht
    rwa [ht] at told
  · rename_i t ht
    rw [ht] at told
    split
    · exact noted t _ told
    · exact told

/-- What a submission of a side with `Q` keeps when those inside it do, they keep at any depth. -/
theorem submitNested_keeps {Q : Color → Prop}
    (step : ∀ nested : Submission, (∀ color m t, Q color → P t → P (nested color m t).1) →
      ∀ color m t, Q color → P t → P (submitWith nested color m t).1) (levels : Nat) :
    ∀ color m t, Q color → P t → P (submitNested levels color m t).1 := by
  induction levels with
  | zero => exact fun _ _ _ _ h => h
  | succ levels ih => exact step _ ih

/-! ### How scripts fail -/

section
variable {E : Error → Prop}

end

/-! ### What every submission keeps -/

/-- A later session of the same game: what was given at the start is the same, and nothing has been
taken out of the history. -/
structure Continues (s t : Session) : Prop where
  ruleset : t.ruleset = s.ruleset
  hooks : t.hooks = s.hooks
  moveListeners : t.moveListeners = s.moveListeners
  history : s.history <+: t.history

@[refl] theorem Continues.refl (s : Session) : s.Continues s := ⟨rfl, rfl, rfl, List.prefix_rfl⟩

theorem Continues.trans {u : Session} (h : s.Continues t) (h' : t.Continues u) : s.Continues u :=
  ⟨h'.ruleset.trans h.ruleset, h'.hooks.trans h.hooks, h'.moveListeners.trans h.moveListeners,
    h.history.trans h'.history⟩

theorem Continues.noted (h : s.Continues t) (notes : List Note) : s.Continues (t.noted notes) :=
  ⟨h.ruleset, h.hooks, h.moveListeners, h.history⟩

theorem exists_board_of_write (square : Square) (cell : Cell) (s : Session) :
    ∃ board, (s.write square cell).1 = { s with board } := by
  rw [write]
  split
  · exact ⟨s.board, rfl⟩
  · exact ⟨_, rfl⟩

theorem exists_board_of_promote (symbol : String) (m : Move) (s : Session) :
    ∃ board, (s.promote symbol m).1 = { s with board } := by
  rw [promote]
  split
  · exact ⟨s.board, rfl⟩
  · exact ⟨s.board, rfl⟩
  · dsimp only
    split <;> split
    · exact exists_board_of_write _ _ s
    · exact ⟨s.board, rfl⟩
    · exact exists_board_of_write _ _ s
    · exact ⟨s.board, rfl⟩

theorem continues_write (square : Square) (cell : Cell) : s.Continues (s.write square cell).1 := by
  obtain ⟨board, same⟩ := s.exists_board_of_write square cell
  exact same ▸ ⟨rfl, rfl, rfl, List.prefix_rfl⟩

theorem continues_promote (symbol : String) (m : Move) : s.Continues (s.promote symbol m).1 := by
  obtain ⟨board, same⟩ := s.exists_board_of_promote symbol m
  exact same ▸ ⟨rfl, rfl, rfl, List.prefix_rfl⟩

/-- Passing the turn on changes the outcome and leaves notes. -/
theorem exists_outcome_of_passTurn {result : Except Error (Color × TerminalState)}
    (h : s.passTurn color = (t, result)) : ∃ outcome notes, t = { s with outcome, notes } := by
  cases result with
  | error e =>
    obtain ⟨notes, rfl⟩ := passTurn_error h
    exact ⟨_, _, rfl⟩
  | ok passed =>
    obtain ⟨next, terminal⟩ := passed
    obtain ⟨-, ⟨-, -, rfl⟩ | ⟨-, -, notes, rfl⟩⟩ := passTurn_ok h
    · exact ⟨_, _, rfl⟩
    · cases terminal with
      | playable => exact ⟨_, _, rfl⟩
      | checkmated => exact ⟨_, _, rfl⟩
      | stalemated => exact ⟨_, _, rfl⟩

section
variable (inside : ∀ color m (t : Session), t.Continues (nested color m t).1)
include inside

theorem continues_perform (m : Move) (action : Action) (s : Session) :
    s.Continues (s.perform nested m action).1 := by
  cases action with
  | say tag => exact (Continues.refl s).noted _
  | declareWinner color =>
    rw [perform, declareWinner]
    split
    · exact .refl s
    · exact ⟨rfl, rfl, rfl, List.prefix_rfl⟩
  | remove place => exact continues_write _ _
  | put place cell => exact continues_write _ _
  | promote symbol => exact continues_promote symbol m
  | raise e => exact .refl s
  | raiseOnce ticket e =>
    rw [perform]
    split
    · exact .refl s
    · exact ⟨rfl, rfl, rfl, List.prefix_rfl⟩
  | submit ticket color move =>
    rw [perform]
    split
    · exact .refl s
    · have spent : s.Continues { s with spent := ticket :: s.spent } := ⟨rfl, rfl, rfl, List.prefix_rfl⟩
      exact spent.trans (inside color move _)

theorem Accepted.continues {hooked : Except Error Unit}
    (accepted : Accepted nested color m s piece captured left hooked) : s.Continues left := by
  obtain ⟨checked, played, kind, check, play, hooks⟩ := accepted.exists_stages
  obtain ⟨notes, rfl⟩ := exists_noted_of_check check
  obtain ⟨-, after, -, -, rfl⟩ := playOn_ok play
  obtain rfl : _ = left := congrArg Prod.fst hooks
  exact runPieceHooks_keeps (P := s.Continues) (fun _ _ h => h.noted _)
    (fun action t h => h.trans (continues_perform inside m action t)) ⟨rfl, rfl, rfl, List.prefix_rfl⟩

theorem continues_announce (record : Record) (s : Session) :
    { s with history := s.history ++ [record] }.Continues (s.announce nested record).1 :=
  announce_keeps (P := Continues { s with history := s.history ++ [record] }) (fun _ _ h => h.noted _)
    (fun _ _ action _ _ h => h.trans (continues_perform inside record.move action _)) (.refl _)

/-- After its record, a game that has passed the turn on goes on from the session before. -/
theorem Accepted.continues_announce {passed : Session} {hooked : Except Error Unit}
    {result : Except Error (Color × TerminalState)}
    (accepted : Accepted nested color m s piece captured left hooked)
    (pass : left.passTurn color = (passed, result)) (record : Record) :
    s.Continues (passed.announce nested record).1 := by
  have announced := Session.continues_announce inside record passed
  obtain ⟨outcome, notes, rfl⟩ := exists_outcome_of_passTurn pass
  exact (accepted.continues inside).trans ⟨announced.ruleset, announced.hooks, announced.moveListeners,
    (List.prefix_append _ _).trans announced.history⟩

theorem continues_submitWith (color : Color) (m : Move) (s : Session) :
    s.Continues (submitWith nested color m s).1 := by
  have course := course_submitWith nested color m s
  generalize submitWith nested color m s = reply at course
  cases course with
  | refused check =>
    obtain ⟨notes, rfl⟩ := exists_noted_of_check check
    exact (Continues.refl s).noted notes
  | unplayable check play =>
    obtain ⟨notes, rfl⟩ := exists_noted_of_check check
    obtain rfl := playOn_error play
    exact (Continues.refl s).noted notes
  | stranded accepted pass =>
    obtain ⟨notes, rfl⟩ := passTurn_error pass
    exact (accepted.continues inside).noted notes
  | unheard accepted pass announce =>
    have announced := accepted.continues_announce inside pass
    exact congrArg Prod.fst announce ▸ announced _
  | recorded accepted pass announce =>
    have announced := accepted.continues_announce inside pass
    exact congrArg Prod.fst announce ▸ announced _

end

theorem continues_submitNested (levels : Nat) (color : Color) (m : Move) (s : Session) :
    s.Continues (submitNested levels color m s).1 := by
  induction levels generalizing color m s with
  | zero => exact .refl s
  | succ levels ih => exact continues_submitWith ih color m s

end Session

end VariantChess
