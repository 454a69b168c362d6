import VariantChess.Proofs.Alike
import VariantChess.Proofs.Game.Nesting

/-!
# Sessions recast

A session is *recast* in another ruleset that plays alike, with other hooks that answer alike, and with
further notes before its own. As long as no script submits a move, every stage of a submission does to
the recast session what it does to the session itself. So what is behind the hooks of a piece goes the
same way whatever the hooks have written into the log (`Session.pass_and_announce_recast`).
-/

namespace VariantChess

/-- The action makes no submission. -/
def Action.Unsubmitting : Action → Prop
  | .submit .. => False
  | _ => True

namespace Session

variable {s t : Session} {ruleset : Ruleset} {hooks : Option Hooks} {before : List Note}
  {nested nested' : Submission} {m : Move} {color : Color}

/-! ### Recasting -/

/-- The session in another ruleset and with other hooks, and with further notes before its own. -/
def recast (ruleset : Ruleset) (hooks : Option Hooks) (before : List Note) (s : Session) : Session :=
  { s with ruleset, hooks, notes := before ++ s.notes }

/-- The reply with its session recast. -/
def recastReply {α : Type} (ruleset : Ruleset) (hooks : Option Hooks) (before : List Note)
    (reply : Reply α) : Reply α :=
  (reply.1.recast ruleset hooks before, reply.2)

@[simp] theorem board_recast : (s.recast ruleset hooks before).board = s.board := rfl

@[simp] theorem outcome_recast : (s.recast ruleset hooks before).outcome = s.outcome := rfl

@[simp] theorem spent_recast : (s.recast ruleset hooks before).spent = s.spent := rfl

theorem noted_recast (notes : List Note) :
    (s.recast ruleset hooks before).noted notes = (s.noted notes).recast ruleset hooks before := by
  simp [noted, recast]

theorem finish_recast (outcome : Outcome) :
    (s.recast ruleset hooks before).finish outcome = (s.finish outcome).recast ruleset hooks before :=
  noted_recast (s := { s with outcome }) _

theorem settle_recast (terminal : TerminalState) : (s.recast ruleset hooks before).settle color terminal =
    (s.settle color terminal).recast ruleset hooks before := by
  cases terminal with
  | playable => rfl
  | checkmated => exact finish_recast _
  | stalemated => exact finish_recast _

theorem declareWinner_recast : (s.recast ruleset hooks before).declareWinner color =
    recastReply ruleset hooks before (s.declareWinner color) := by
  rw [declareWinner, declareWinner, outcome_recast]
  split
  · rfl
  · rw [finish_recast]
    rfl

theorem write_recast (square : Square) (cell : Cell) :
    (s.recast ruleset hooks before).write square cell =
      recastReply ruleset hooks before (s.write square cell) := by
  rw [write, write, board_recast]
  cases s.board.set square cell <;> rfl

theorem promote_recast (symbol : String) : (s.recast ruleset hooks before).promote symbol m =
    recastReply ruleset hooks before (s.promote symbol m) := by
  rw [promote, promote, board_recast]
  rcases s.board.get m.destination with e | _ | piece
  · rfl
  · rfl
  · dsimp only
    by_cases last : m.destination.y = if piece.color.forward < 0 then 0 else (s.board.height : Int) - 1
    · rw [if_pos last, if_pos last, write_recast]
    · rw [if_neg last, if_neg last]
      rfl

theorem perform_recast {action : Action} (quiet : action.Unsubmitting) :
    (s.recast ruleset hooks before).perform nested' m action =
      recastReply ruleset hooks before (s.perform nested m action) := by
  cases action with
  | say tag =>
    rw [perform, perform, noted_recast]
    rfl
  | declareWinner color => exact declareWinner_recast
  | remove place => exact write_recast _ _
  | put place cell => exact write_recast _ _
  | promote symbol => exact promote_recast symbol
  | raise e => rfl
  | raiseOnce ticket e =>
    rw [perform, perform, spent_recast]
    split <;> rfl
  | submit ticket color move => exact quiet.elim

theorem runScript_recast (nested nested' : Submission) {script : Script}
    (quiet : ∀ action ∈ script, action.Unsubmitting) :
    runScript nested' m script (s.recast ruleset hooks before) =
      recastReply ruleset hooks before (runScript nested m script s) := by
  induction script generalizing s with
  | nil => rfl
  | cons action script ih =>
    obtain ⟨hquiet, quiet⟩ := List.forall_mem_cons.1 quiet
    rw [runScript, runScript, perform_recast hquiet]
    rcases s.perform nested m action with ⟨t, e | ⟨⟩⟩
    · rfl
    · exact ih quiet

theorem runHook?_recast {hooksThen hooksNow : Hooks} {occasion : Occasion} (nested nested' : Submission)
    (same : hooksNow.script? occasion = hooksThen.script? occasion)
    (quiet : ∀ id script, hooksThen.script? occasion id = some script →
      ∀ action ∈ script, action.Unsubmitting) (id : Option String) :
    (s.recast ruleset hooks before).runHook? nested' hooksNow occasion id m =
      recastReply ruleset hooks before (s.runHook? nested hooksThen occasion id m) := by
  cases id with
  | none => rfl
  | some id =>
    rw [runHook?, runHook?, runHook, runHook, callHook, callHook, same]
    cases known : hooksThen.script? occasion id with
    | none => rfl
    | some script =>
      dsimp only
      rw [runScript_recast nested nested' (quiet id script known)]
      rcases runScript nested m script s with ⟨t, e | ⟨⟩⟩
      · dsimp only [recastReply]
        split
        · rfl
        · exact congrArg (Prod.mk · _) (noted_recast _)
      · rfl

/-! ### The stages of a recast session -/

theorem check_recast (alike : s.ruleset.PlaysAlike ruleset)
    (asked : (s.recast ruleset hooks before).extraMoves = s.extraMoves) :
    (s.recast ruleset hooks before).check color m =
      recastReply ruleset hooks before (s.check color m) := by
  have legal : (s.recast ruleset hooks before).legalMoves color = s.legalMoves color := by
    rw [legalMoves, legalMoves, asked]
    exact (alike.catalogue.legalMoves_eq s.board color s.extraMoves).symm
  rw [check, check, outcome_recast, legal]
  split
  · rfl
  · dsimp only
    rw [noted_recast]
    cases (s.legalMoves color).result <;> rfl

theorem passTurn_recast (alike : s.ruleset.PlaysAlike ruleset)
    (asked : (s.recast ruleset hooks before).extraMoves = s.extraMoves) :
    (s.recast ruleset hooks before).passTurn color =
      recastReply ruleset hooks before (s.passTurn color) := by
  have terminal (next : Color) :
      (s.recast ruleset hooks before).terminalState next = s.terminalState next := by
    rw [terminalState, terminalState, asked]
    exact (alike.catalogue.terminalState_eq s.board next s.extraMoves).symm
  have turn : (s.recast ruleset hooks before).ruleset.nextColor color = s.ruleset.nextColor color :=
    (alike.nextColor color).symm
  rw [passTurn, passTurn, turn]
  cases s.ruleset.nextColor color with
  | error e => rfl
  | ok next =>
    dsimp only
    rw [outcome_recast, terminal]
    split
    · rfl
    · cases (s.terminalState next).result with
      | error e => exact congrArg (Prod.mk · _) (noted_recast _)
      | ok state =>
        dsimp only
        rw [noted_recast, settle_recast]
        rfl

theorem ring_recast :
    (s.recast ruleset hooks before).ring = s.ring.recast ruleset hooks before := by
  rw [ring, ring, outcome_recast]
  split
  · exact noted_recast _
  · rfl

theorem announce_recast {record : Record}
    (quiet : ∀ script ∈ s.moveListeners, ∀ action ∈ script, action.Unsubmitting) :
    (s.recast ruleset hooks before).announce nested' record =
      recastReply ruleset hooks before (s.announce nested record) := by
  have quiet : ∀ action ∈ s.moveListeners.flatten, action.Unsubmitting := List.forall_mem_flatten.2 quiet
  have told : runScript nested' record.move s.moveListeners.flatten
      ((s.recast ruleset hooks before).recording record) = _ :=
    runScript_recast nested nested' quiet (s := s.recording record)
  obtain ⟨t, e, run, hs⟩ | ⟨t, run, hs⟩ := announce_cases nested record s
  all_goals
    rw [run] at told
    obtain ⟨t', e', run', hs'⟩ | ⟨t', run', hs'⟩ :=
      announce_cases nested' record (s.recast ruleset hooks before)
  · cases told.symm.trans run'
    rw [hs, hs']
    rfl
  · cases told.symm.trans run'
  · cases told.symm.trans run'
  · cases told.symm.trans run'
    rw [hs, hs', ring_recast]
    rfl

theorem playOn_recast {piece : Piece} {kind kind' : PieceKind} {captured : Bool}
    (h : s.playOn color m = (t, .ok (piece, kind, captured)))
    (lookup : ruleset.catalogue.lookup piece.symbol = .ok kind') :
    (s.recast ruleset hooks before).playOn color m =
      (t.recast ruleset hooks before, .ok (piece, kind', captured)) := by
  obtain ⟨-, after, cell, play, rfl⟩ := playOn_ok h
  have lookup : (s.recast ruleset hooks before).ruleset.catalogue.lookup piece.symbol = .ok kind' := lookup
  rw [playOn, board_recast, cell, play]
  dsimp only
  rw [lookup]
  exact congrArg (Prod.mk · _) (noted_recast (s := { s with board := after }) _)

/-- Behind the hooks, a further note makes no difference, and neither do other hooks. -/
theorem pass_and_announce_recast (nested' : Submission) {left passed : Session} {next : Color}
    {terminal : TerminalState} {record : Record}
    (pass : left.passTurn color = (passed, .ok (next, terminal)))
    (announce : passed.announce nested record = (t, .ok ()))
    (alike : left.ruleset.PlaysAlike ruleset)
    (asked : (left.recast ruleset hooks []).extraMoves = left.extraMoves)
    (quiet : ∀ script ∈ left.moveListeners, ∀ action ∈ script, action.Unsubmitting) (notes : List Note) :
    ∃ passed' behind, t.notes = left.notes ++ behind ∧
      ((left.recast ruleset hooks []).noted notes).passTurn color = (passed', .ok (next, terminal)) ∧
      passed'.announce nested' record =
        ({ t with ruleset, hooks, notes := left.notes ++ (notes ++ behind) }, .ok ()) := by
  -- both sessions are casts of the one that has no notes yet
  let base : Session := { left with notes := [] }
  have hleft : left = base.recast left.ruleset left.hooks left.notes := by
    rw [recast, List.append_nil]
  have hleft' : (left.recast ruleset hooks []).noted notes =
      base.recast ruleset hooks (left.notes ++ notes) := by
    simp [base, recast, noted]
  have turned : (base.recast left.ruleset left.hooks left.notes).passTurn color =
      recastReply left.ruleset left.hooks left.notes (base.passTurn color) :=
    passTurn_recast ⟨rfl, rfl, fun _ => rfl⟩ rfl
  have turned' : (base.recast ruleset hooks (left.notes ++ notes)).passTurn color =
      recastReply ruleset hooks (left.notes ++ notes) (base.passTurn color) :=
    passTurn_recast alike asked
  rw [← hleft, pass] at turned
  cases hbase : base.passTurn color with
  | mk final result =>
    rw [hbase] at turned turned'
    obtain ⟨hpassed, rfl⟩ := Prod.mk.inj turned
    subst hpassed
    obtain ⟨outcome, more, hfinal⟩ := exists_outcome_of_passTurn hbase
    have listeners : final.moveListeners = left.moveListeners := by rw [hfinal]
    rw [← listeners] at quiet
    have told : (final.recast left.ruleset left.hooks left.notes).announce nested record =
        recastReply left.ruleset left.hooks left.notes (final.announce nested record) :=
      announce_recast quiet
    have told' : (final.recast ruleset hooks (left.notes ++ notes)).announce nested' record =
        recastReply ruleset hooks (left.notes ++ notes) (final.announce nested record) :=
      announce_recast quiet
    rw [announce] at told
    cases hfinal : final.announce nested record with
    | mk heard result =>
      rw [hfinal] at told told'
      obtain ⟨rfl, rfl⟩ := Prod.mk.inj told
      refine ⟨_, heard.notes, rfl, hleft' ▸ turned', told'.trans ?_⟩
      rw [recastReply, recast, List.append_assoc]
      rfl

end Session

end VariantChess
