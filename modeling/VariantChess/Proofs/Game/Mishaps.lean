import VariantChess.Proofs.Game.Plays
import VariantChess.Proofs.Game.Recast

/-!
# A hook that fails

A submission keeps the failure of a hook back until the move has been recorded and the listeners have
been told, and nothing in between looks at it. So the session is the same as if the hook had done all
that it did without failing and the hook behind it had not been there, apart from one line of the log
(`Session.submit_of_mishap`). The two games have different rulesets, different hooks and different
notes: one is the other recast, up to the hook that fails and again behind it.
-/

namespace VariantChess

/-! ### Scripts -/

/-- The hook of the kind for the occasion. -/
def PieceKind.hook? (kind : PieceKind) : Occasion → Option String
  | .extraMoves => kind.extraMoves
  | .afterMove => kind.afterMove
  | .afterCapture => kind.afterCapture

/-- The hooks with another script under an id. -/
def Hooks.rescript (h : Hooks) (id : String) (script : Script) : Occasion → Hooks
  | .extraMoves => h
  | .afterMove => { h with afterMove := register id script h.afterMove }
  | .afterCapture => { h with afterCapture := register id script h.afterCapture }

theorem Hooks.ask_rescript (h : Hooks) (id : String) (script : Script) (occasion : Occasion) :
    (h.rescript id script occasion).ask = h.ask := by
  cases occasion <;> rfl

theorem Hooks.lookup_register {α : Type} (id : String) (hook : α) (table : List (String × α)) :
    (register id hook table).lookup id = some hook := by
  simp [register]

theorem Hooks.script?_rescript {h : Hooks} {id : String} {script : Script} {occasion : Occasion}
    (known : (h.script? occasion id).isSome) :
    (h.rescript id script occasion).script? occasion id = some script := by
  cases occasion with
  | extraMoves => cases known
  | afterMove => exact lookup_register id script h.afterMove
  | afterCapture => exact lookup_register id script h.afterCapture

theorem Hooks.script?_rescript_of_ne {h : Hooks} {id : String} {script : Script}
    {occasion occasion' : Occasion} (hne : occasion' ≠ occasion) :
    (h.rescript id script occasion).script? occasion' = h.script? occasion' := by
  cases occasion <;> cases occasion' <;> first | rfl | contradiction

theorem Hooks.mem_rescript {h : Hooks} {id : String} {script : Script} {occasion : Occasion}
    {hook : String × Script} (mem : hook ∈ (h.rescript id script occasion).afterMove ++
      (h.rescript id script occasion).afterCapture) :
    hook = (id, script) ∨ hook ∈ h.afterMove ++ h.afterCapture := by
  have registered {table : List (String × Script)} (mem : hook ∈ register id script table) :
      hook = (id, script) ∨ hook ∈ table :=
    (List.mem_cons.1 mem).imp_right List.mem_of_mem_filter
  rcases List.mem_append.1 mem with mem | mem
  · cases occasion with
    | afterMove => exact (registered mem).imp_right fun mem => List.mem_append_left _ mem
    | _ => exact .inr (List.mem_append_left _ mem)
  · cases occasion with
    | afterCapture => exact (registered mem).imp_right fun mem => List.mem_append_right _ mem
    | _ => exact .inr (List.mem_append_right _ mem)

namespace Session

variable {s t : Session} {ruleset : Ruleset} {hooks : Option Hooks} {nested : Submission} {m : Move}
  {color : Color}

/-! ### The failing hook -/

/-- A move whose piece names a hook that does something and then fails. -/
structure Mishap (s : Session) (m : Move) where
  hooks : Hooks
  piece : Piece
  kind : PieceKind
  occasion : Occasion
  id : String
  /-- What the hook does before it fails. -/
  acts : Script
  error : Error
  hooked : s.hooks = some hooks
  mover : s.board.cell m.origin = some piece
  found : s.ruleset.catalogue.find? piece.symbol = some kind
  named : kind.hook? occasion = some id
  script : hooks.script? occasion id = some (acts ++ [.raise error])
  captures : occasion = .afterCapture → (s.board.cell m.destination).isSome

namespace Mishap

variable (mishap : Mishap s m)

/-- The session in which the hook does not fail; if it was the one for moves, the piece has none for its
captures. -/
def unfailing : Session :=
  { s with
    hooks := some (mishap.hooks.rescript mishap.id mishap.acts mishap.occasion)
    ruleset := if mishap.occasion = .afterMove then s.ruleset.withoutCaptureHook mishap.piece.symbol
      else s.ruleset }

/-- What the submission raises in the end. -/
def raised : Error :=
  if mishap.error.isOwn then mishap.error
  else .hook (.failed mishap.id mishap.error.message) (some mishap.id) (some m.destination) []

/-- What the log tells of it. -/
def warning : List Note :=
  if mishap.error.isOwn then [] else [.event (.hookFailed mishap.id m mishap.error.message)]

/-- The kind of the piece where the hook does not fail. -/
def milder : PieceKind :=
  if mishap.occasion = .afterMove then { mishap.kind with afterCapture := none } else mishap.kind

theorem filter_warning : mishap.warning.filter (fun n => match n with
    | .event _ => false
    | _ => true) = [] := by
  rw [warning]
  split <;> rfl

theorem lookup_kind : s.ruleset.catalogue.lookup mishap.piece.symbol = .ok mishap.kind := by
  rw [Catalogue.lookup, mishap.found]

theorem lookup_unfailing :
    mishap.unfailing.ruleset.catalogue.lookup mishap.piece.symbol = .ok mishap.milder := by
  rw [unfailing, milder]
  dsimp only
  split
  · have found := s.ruleset.catalogue.find?_withoutCaptureHook mishap.piece.symbol mishap.piece.symbol
    rw [mishap.found, Option.map_some, if_pos rfl] at found
    rw [Catalogue.lookup, Ruleset.withoutCaptureHook, found]
  · exact mishap.lookup_kind

theorem playsAlike_unfailing : mishap.unfailing.ruleset.PlaysAlike s.ruleset := by
  rw [unfailing]
  dsimp only
  split
  · exact ⟨rfl, rfl, s.ruleset.catalogue.movesAlike_withoutCaptureHook _⟩
  · exact ⟨rfl, rfl, fun _ => rfl⟩

theorem recast_unfailing :
    mishap.unfailing.recast s.ruleset (some mishap.hooks) [] = s := by
  rw [← mishap.hooked]
  rfl

theorem extraMoves_unfailing : mishap.unfailing.extraMoves = s.extraMoves := by
  rw [extraMoves, extraMoves, mishap.hooked]
  exact congrArg some (mishap.hooks.ask_rescript _ _ _)

theorem quiet_acts (quiet : ∀ hook ∈ mishap.hooks.afterMove ++ mishap.hooks.afterCapture,
    ∀ action ∈ hook.2, action.Unsubmitting) : ∀ action ∈ mishap.acts, action.Unsubmitting :=
  (List.forall_mem_append.1 (quiet _ (Hooks.mem_of_script? mishap.script))).1

/-- The failing hook leaves what it leaves where it does not fail, and a line of the log. -/
theorem runHook_of_fails {left : Session} (nested' : Submission)
    (quiet : ∀ action ∈ mishap.acts, action.Unsubmitting)
    (h : t.runHook nested (mishap.hooks.rescript mishap.id mishap.acts mishap.occasion) mishap.occasion
      mishap.id m = (left, .ok ())) :
    (t.recast ruleset hooks []).runHook nested' mishap.hooks mishap.occasion mishap.id m =
      ((left.recast ruleset hooks []).noted mishap.warning, .error mishap.raised) := by
  have known : (mishap.hooks.rescript mishap.id mishap.acts mishap.occasion).script? mishap.occasion
      mishap.id = some mishap.acts := Hooks.script?_rescript (by rw [mishap.script]; rfl)
  rw [runHook, callHook, known] at h
  dsimp only at h
  rcases run : runScript nested m mishap.acts t with ⟨left', e | ⟨⟩⟩
  · rw [run] at h
    dsimp only at h
    split at h <;> cases h
  · rw [run] at h
    cases h
    have run' : runScript nested' m (mishap.acts ++ [.raise mishap.error]) (t.recast ruleset hooks []) =
        (left.recast ruleset hooks [], .error mishap.error) := by
      rw [runScript_append, runScript_recast nested nested' quiet, run]
      rfl
    rw [runHook, callHook, mishap.script]
    dsimp only
    rw [run', raised, warning]
    dsimp only
    split
    · rw [noted_nil]
    · rfl

/-- The hooks of the piece fail where the hook does, and leave what they leave where it does not. -/
theorem runPieceHooks_of_fails {left : Session} {captured : Bool} (nested' : Submission)
    (quiet : ∀ hook ∈ mishap.hooks.afterMove ++ mishap.hooks.afterCapture, ∀ action ∈ hook.2,
      action.Unsubmitting)
    (captures : mishap.occasion = .afterCapture → captured)
    (given : t.hooks = some (mishap.hooks.rescript mishap.id mishap.acts mishap.occasion))
    (h : t.runPieceHooks nested mishap.milder m captured = (left, .ok ())) :
    (t.recast ruleset (some mishap.hooks) []).runPieceHooks nested' mishap.kind m captured =
      ((left.recast ruleset (some mishap.hooks) []).noted mishap.warning, .error mishap.raised) := by
  have quietScript {occasion : Occasion} {id : String} {script : Script}
      (known : mishap.hooks.script? occasion id = some script) : ∀ action ∈ script, action.Unsubmitting :=
    quiet _ (Hooks.mem_of_script? known)
  have given' : (t.recast ruleset (some mishap.hooks) []).hooks = some mishap.hooks := rfl
  have fails {u : Session} (h : u.runHook nested
        (mishap.hooks.rescript mishap.id mishap.acts mishap.occasion) mishap.occasion mishap.id m =
          (left, .ok ())) :
      (u.recast ruleset (some mishap.hooks) []).runHook nested' mishap.hooks mishap.occasion mishap.id m =
        ((left.recast ruleset (some mishap.hooks) []).noted mishap.warning, .error mishap.raised) :=
    mishap.runHook_of_fails nested' (mishap.quiet_acts quiet) h
  have named := mishap.named
  rw [runPieceHooks, given] at h
  rw [runPieceHooks, given']
  dsimp only at h ⊢
  cases occasion : mishap.occasion with
  | extraMoves =>
    have known := mishap.script
    rw [occasion] at known
    cases known
  | afterMove =>
    have named : mishap.kind.afterMove = some mishap.id := by rwa [occasion] at named
    have milder : mishap.milder = { mishap.kind with afterCapture := none } := if_pos occasion
    rw [milder, named, runHook?] at h
    rw [named, runHook?]
    rw [occasion] at fails h
    rcases hook : t.runHook nested _ .afterMove mishap.id m with ⟨mid, e | ⟨⟩⟩
    · rw [hook] at h
      cases h
    · rw [hook] at h
      obtain rfl : mid = left := by
        dsimp only [runHook?] at h
        split at h <;> cases h <;> rfl
      rw [fails hook]
  | afterCapture =>
    have named : mishap.kind.afterCapture = some mishap.id := by rwa [occasion] at named
    have milder : mishap.milder = mishap.kind := if_neg (by rw [occasion]; decide)
    have same : mishap.hooks.script? .afterMove =
        (mishap.hooks.rescript mishap.id mishap.acts .afterCapture).script? .afterMove :=
      (Hooks.script?_rescript_of_ne (by decide)).symm
    have moved : (t.recast ruleset (some mishap.hooks) []).runHook? nested' mishap.hooks .afterMove
          mishap.kind.afterMove m = recastReply ruleset (some mishap.hooks) []
        (t.runHook? nested (mishap.hooks.rescript mishap.id mishap.acts .afterCapture) .afterMove
          mishap.kind.afterMove m) :=
      runHook?_recast nested nested' same (fun _ _ known => quietScript (same.symm ▸ known)) _
    obtain rfl : captured = true := captures occasion
    rw [occasion] at fails h
    rw [milder, named] at h
    rw [named, moved]
    rcases hook : t.runHook? nested _ .afterMove mishap.kind.afterMove m with ⟨mid, e | ⟨⟩⟩
    · rw [hook] at h
      cases h
    · rw [hook] at h
      exact fails h

end Mishap

/-! ### The submission -/

/-- What hooks and listeners have said and what the listeners have been told, without the log. -/
def trace (s : Session) : List Note :=
  s.notes.filter fun n => match n with
    | .event _ => false
    | _ => true

/-- Hooks and listeners do not submit moves. -/
structure Unsubmitting (s : Session) : Prop where
  hooks : ∀ hooks ∈ s.hooks, ∀ hook ∈ hooks.afterMove ++ hooks.afterCapture, ∀ action ∈ hook.2,
    action.Unsubmitting
  listeners : ∀ script ∈ s.moveListeners, ∀ action ∈ script, action.Unsubmitting

theorem Mishap.unsubmitting (mishap : Mishap s m) (quiet : s.Unsubmitting) :
    mishap.unfailing.Unsubmitting where
  hooks := by
    rintro hooks ⟨⟩ hook hhook
    rcases Hooks.mem_rescript hhook with rfl | hhook
    · exact (mishap.quiet_acts (quiet.hooks _ mishap.hooked))
    · exact quiet.hooks _ mishap.hooked hook hhook
  listeners := quiet.listeners

/-- Without submissions, a script writes no history. -/
theorem history_perform {action : Action} (quiet : action.Unsubmitting) :
    (s.perform nested m action).1.history = s.history := by
  cases action with
  | say tag => rfl
  | declareWinner color =>
    rw [perform, declareWinner]
    split <;> rfl
  | remove place =>
    obtain ⟨board, same⟩ := s.exists_board_of_write (place.of m) none
    rw [perform, same]
  | put place cell =>
    obtain ⟨board, same⟩ := s.exists_board_of_write (place.of m) cell
    rw [perform, same]
  | promote symbol =>
    obtain ⟨board, same⟩ := s.exists_board_of_promote symbol m
    rw [perform, same]
  | raise e => rfl
  | raiseOnce ticket e =>
    rw [perform]
    split <;> rfl
  | submit ticket color move => exact quiet.elim

theorem Unsubmitting.history_submit {record : Record} (quiet : s.Unsubmitting)
    (h : s.submit color m = (t, .ok record)) : t.history = s.history ++ [record] := by
  obtain ⟨left, passed, piece, captured, next, terminal, accepted, pass, rfl, announce⟩ :=
    exists_stages_of_ok h
  have continues : s.Continues left := accepted.continues (continues_submitNested _)
  obtain ⟨checked, played, kind, check, play, hooks⟩ := accepted.exists_stages
  obtain ⟨notes, rfl⟩ := exists_noted_of_check check
  obtain ⟨-, after, -, -, rfl⟩ := playOn_ok play
  have hooked : left.history = s.history := by
    obtain ⟨run, -⟩ | ⟨_, _, -, failed, -⟩ := runPieceHooks_cases hooks
    · rw [← show _ = left from congrArg Prod.fst run]
      refine runScript_keeps (P := fun u => u.history = s.history) (fun action haction u hu => ?_) rfl
      rw [← hu]
      exact history_perform (forall_mem_pieceScript quiet.hooks kind captured action haction)
    · cases failed
  obtain ⟨outcome, more, rfl⟩ := exists_outcome_of_passTurn pass
  rw [← hooked, ← show _ = t from congrArg Prod.fst announce]
  refine announce_keeps (P := fun u => u.history = _) (fun _ _ h => h) ?_ rfl
  intro script hscript action haction u hu
  rw [← hu]
  exact history_perform (quiet.listeners script (continues.moveListeners ▸ hscript) action haction)

/-- What has been accepted where the hook does not fail is accepted where it fails, up to the failure. -/
theorem Mishap.accepted (mishap : Mishap s m) (quiet : s.Unsubmitting) {left : Session} {piece : Piece}
    {captured : Bool} (accepted : Accepted nested color m mishap.unfailing piece captured left (.ok ()))
    (nested' : Submission) :
    Accepted nested' color m s piece captured
      ((left.recast s.ruleset (some mishap.hooks) []).noted mishap.warning) (.error mishap.raised) := by
  obtain ⟨checked, played, kind, check, play, hooks⟩ := accepted.exists_stages
  have check' : s.check color m = (checked.recast s.ruleset (some mishap.hooks) [], .ok ()) := by
    have asked : (mishap.unfailing.recast s.ruleset (some mishap.hooks) []).extraMoves =
        mishap.unfailing.extraMoves := by
      rw [mishap.recast_unfailing, mishap.extraMoves_unfailing]
    have recast : (mishap.unfailing.recast s.ruleset (some mishap.hooks) []).check color m = _ :=
      check_recast mishap.playsAlike_unfailing asked
    rwa [mishap.recast_unfailing, check] at recast
  obtain ⟨asides, rfl⟩ := exists_noted_of_check check
  obtain ⟨lookup, after, cell, move, hplayed⟩ := playOn_ok play
  obtain rfl : mishap.piece = piece := Option.some_inj.1 (mishap.mover.symm.trans cell)
  obtain rfl : mishap.milder = kind := Except.ok.inj (mishap.lookup_unfailing.symm.trans lookup)
  have play' : ((mishap.unfailing.noted asides).recast s.ruleset (some mishap.hooks) []).playOn color m =
      (played.recast s.ruleset (some mishap.hooks) [], .ok (mishap.piece, mishap.kind, captured)) :=
    playOn_recast play mishap.lookup_kind
  have captures : mishap.occasion = .afterCapture → captured := by
    intro occasion
    obtain ⟨-, -, -, p, -, rfl, -⟩ := Board.play_eq_ok_iff.1 move
    exact mishap.captures occasion
  have given : played.hooks = some (mishap.hooks.rescript mishap.id mishap.acts mishap.occasion) := by
    rw [hplayed]
    rfl
  exact ⟨_, _, _, check', play', mishap.runPieceHooks_of_fails nested'
    (quiet.hooks mishap.hooks mishap.hooked) captures given hooks⟩

/-- The failure of a hook shows in the error and in the log only: otherwise the game is as if the hook
had not failed and the hook behind it had not been there. -/
theorem submit_of_mishap (mishap : Mishap s m) (quiet : s.Unsubmitting) {record : Record}
    (unfailing : mishap.unfailing.submit color m = (t, .ok record)) :
    ∃ t', s.submit color m = (t', .error mishap.raised) ∧ t'.board = t.board ∧
      t'.history = t.history ∧ t'.history = s.history ++ [record] ∧ t'.outcome = t.outcome ∧
      t'.trace = t.trace ∧
      ∃ front behind, t.notes = front ++ behind ∧ t'.notes = front ++ (mishap.warning ++ behind) := by
  have history : t.history = s.history ++ [record] := (mishap.unsubmitting quiet).history_submit unfailing
  obtain ⟨left, passed, piece, captured, next, terminal, accepted, pass, rfl, announce⟩ :=
    exists_stages_of_ok unfailing
  have continues : mishap.unfailing.Continues left := accepted.continues (continues_submitNested _)
  have asked : (left.recast s.ruleset (some mishap.hooks) []).extraMoves = left.extraMoves := by
    rw [extraMoves, extraMoves, continues.hooks]
    exact congrArg some (mishap.hooks.ask_rescript _ _ _).symm
  have alike : left.ruleset.PlaysAlike s.ruleset := continues.ruleset ▸ mishap.playsAlike_unfailing
  have told : ∀ script ∈ left.moveListeners, ∀ action ∈ script, action.Unsubmitting :=
    continues.moveListeners ▸ quiet.listeners
  obtain ⟨passed', behind, notes, pass', announce'⟩ :=
    pass_and_announce_recast (submitNested s.tickets) pass announce alike asked told mishap.warning
  have trace : trace { t with
        ruleset := s.ruleset
        hooks := some mishap.hooks
        notes := left.notes ++ (mishap.warning ++ behind) } = t.trace := by
    rw [Session.trace, Session.trace, notes, List.filter_append, List.filter_append, List.filter_append,
      mishap.filter_warning, List.nil_append]
  have raised := (mishap.accepted quiet accepted (submitNested s.tickets)).submitWith_eq pass' announce'
  exact ⟨_, raised, rfl, rfl, history, rfl, trace, left.notes, behind, notes, rfl⟩

end Session

/-- The duel of kings and a rook, in which the rooks have hooks for their moves and for their captures. -/
def sabotage : Ruleset :=
  { duel with
    name := "sabotage"
    catalogue := {
      entries := [
        ("k", {
          name := "king"
          rules := [.mk { distance := .exact 1 } [.heading .all] none]
          royal := true }),
        ("r", {
          name := "rook"
          rules := [.mk {} [.heading .orthogonal] none]
          afterMove := some "boom"
          afterCapture := some "eat" })] }
    symbol_mem := by decide }

/-- The hook for moves says something, gives the game away and then fails. -/
def sabotageOpening : Session where
  ruleset := sabotage
  hooks := some {
    afterMove := [("boom", [.say "boom", .declareWinner .black, .raise (.failure "lost")])]
    afterCapture := [("eat", [.say "eaten"])] }
  moveListeners := [[.say "heard"]]
  overListeners := ["bell"]
  board := .ofRows [
    [some ⟨"k", .black, false⟩, none, some ⟨"r", .black, false⟩],
    [none, none, none],
    [some ⟨"k", .white, false⟩, none, some ⟨"r", .white, false⟩]]

/-- White's rook takes the other one. -/
def sabotageCapture : sabotageOpening.Mishap ⟨⟨2, 2⟩, ⟨2, 0⟩⟩ where
  hooks := {
    afterMove := [("boom", [.say "boom", .declareWinner .black, .raise (.failure "lost")])]
    afterCapture := [("eat", [.say "eaten"])] }
  piece := ⟨"r", .white, false⟩
  kind := {
    name := "rook"
    rules := [.mk {} [.heading .orthogonal] none]
    afterMove := some "boom"
    afterCapture := some "eat" }
  occasion := .afterMove
  id := "boom"
  acts := [.say "boom", .declareWinner .black]
  error := .failure "lost"
  hooked := rfl
  mover := by decide
  found := rfl
  named := rfl
  script := rfl
  captures := by decide

theorem submit_of_mishap_capture : ∃ (t t' : Session) (record : Record),
    sabotageOpening.Unsubmitting ∧
    sabotageCapture.unfailing.submit .white ⟨⟨2, 2⟩, ⟨2, 0⟩⟩ = (t, .ok record) ∧
    sabotageOpening.submit .white ⟨⟨2, 2⟩, ⟨2, 0⟩⟩ = (t', .error
      (.hook (.failed "boom" "lost") (some "boom") (some ⟨2, 0⟩) [])) ∧
    t'.board = t.board ∧ t'.history = [record] ∧ record.captured ∧ t'.outcome = .win .black ∧
    t'.trace = t.trace ∧ t'.trace.length = 3 := by
  have quiet : sabotageOpening.Unsubmitting :=
    ⟨by simp [sabotageOpening, Action.Unsubmitting, or_imp, forall_and],
      by simp [sabotageOpening, Action.Unsubmitting]⟩
  have known : ((sabotageCapture.unfailing.submit .white ⟨⟨2, 2⟩, ⟨2, 0⟩⟩).2.toOption.map
      (·.captured)) = some true := by decide +kernel
  have outcome : (sabotageCapture.unfailing.submit .white ⟨⟨2, 2⟩, ⟨2, 0⟩⟩).1.outcome = .win .black := by
    decide +kernel
  have length : (sabotageCapture.unfailing.submit .white ⟨⟨2, 2⟩, ⟨2, 0⟩⟩).1.trace.length = 3 := by
    decide +kernel
  rcases unfailing : sabotageCapture.unfailing.submit .white ⟨⟨2, 2⟩, ⟨2, 0⟩⟩ with ⟨t, e | record⟩
  · rw [unfailing] at known
    cases known
  · rw [unfailing] at known outcome length
    obtain ⟨t', raised, board, -, history, same, trace, -⟩ :=
      Session.submit_of_mishap sabotageCapture quiet unfailing
    exact ⟨t, t', record, quiet, rfl, raised, board, history, Option.some_inj.1 known,
      same.trans outcome, trace, trace ▸ length⟩

end VariantChess
