import VariantChess.Proofs.Fallible
import VariantChess.Proofs.Game.Steps

/-!
# Submissions inside submissions

Scripts run at two points of a submission: those of the hooks when the move has been played, and those
of the listeners when it has been recorded. What the hooks of a piece run is one script
(`Session.pieceScript`), but for the note and the wording of a failure (`HookRun`), and so is what the
listeners run. The submissions that a run of a script makes are listed together with the session in which
each is made (`Session.submittedBy`), so that a property of a submission can speak of those inside it:
`Submitted.hooked` and `Submitted.told`, and both together in `Submitted.inside`.
-/

namespace VariantChess

/-- A submission and the session in which it is made. -/
structure Submitted where
  before : Session
  color : Color
  move : Move

namespace Session

/-- The submission that an action makes, unless its ticket has been used. -/
def submitted? (s : Session) : Action → Option Submitted
  | .submit ticket color move =>
    if s.spent.contains ticket then none else some ⟨{ s with spent := ticket :: s.spent }, color, move⟩
  | _ => none

/-- The submissions that a run of a script makes, one after the other. -/
def submittedBy (nested : Submission) (m : Move) : Script → Session → List Submitted
  | [], _ => []
  | action :: script, s =>
    (s.submitted? action).toList ++ match s.perform nested m action with
      | (_, .error _) => []
      | (t, .ok ()) => submittedBy nested m script t

/-- What the hooks of a piece that has moved run, up to a hook that does not exist. -/
def pieceScript (s : Session) (kind : PieceKind) (captured : Bool) : Script :=
  match s.hooks with
  | none => []
  | some hooks =>
    let capturing :=
      if captured then (kind.afterCapture.bind (hooks.script? .afterCapture)).getD [] else []
    match kind.afterMove with
    | none => capturing
    | some id =>
      match hooks.script? .afterMove id with
      | none => []
      | some script => script ++ capturing

/-- The submissions that calls make, one after the other. -/
def submittedIn : Session → List Call → List Submitted
  | _, [] => []
  | s, .submit color m :: calls => ⟨s, color, m⟩ :: submittedIn (s.submit color m).1 calls
  | s, .declareWinner color :: calls => submittedIn (s.declareWinner color).1 calls

/-- The session with one more record. -/
def recording (s : Session) (record : Record) : Session := { s with history := s.history ++ [record] }

/-- The session once the listeners have been told that the game is over, if it is. -/
def ring (s : Session) : Session :=
  if s.outcome.isOver then s.noted (s.overListeners.map fun tag => .over tag s.outcome) else s

end Session

namespace Submitted

/-- What the submission comes to. -/
def through (submission : Submission) (c : Submitted) : Reply Record :=
  submission c.color c.move c.before

variable (nested : Submission) (c : Submitted)

/-- The session in which the move has been played, with the moved piece, its kind and whether it has
captured; none if the move is refused. -/
def played? : Option (Session × Piece × PieceKind × Bool) :=
  match c.before.check c.color c.move with
  | (_, .error _) => none
  | (checked, .ok ()) =>
    match checked.playOn c.color c.move with
    | (_, .error _) => none
    | (played, .ok moved) => some (played, moved)

/-- The submissions that the hooks of the piece make. -/
def hooked : List Submitted :=
  match c.played? with
  | none => []
  | some (played, _, kind, captured) =>
    played.submittedBy nested c.move (played.pieceScript kind captured)

/-- The submissions that the listeners make when they are told of the move. -/
def told : List Submitted :=
  match c.played? with
  | none => []
  | some (played, piece, kind, captured) =>
    match (played.runPieceHooks nested kind c.move captured).1.passTurn c.color with
    | (_, .error _) => []
    | (passed, .ok (next, terminal)) =>
      (passed.recording ⟨c.color, c.move, piece.symbol, captured, next, terminal⟩).submittedBy nested
        c.move passed.moveListeners.flatten

/-- The submissions that are made directly inside this one. -/
def inside : List Submitted := c.hooked nested ++ c.told nested

end Submitted

namespace Session

variable {nested : Submission} {color next : Color} {m : Move} {s t left passed : Session}
  {script : Script} {piece : Piece} {kind : PieceKind} {captured : Bool}
  {hooked : Except Error Unit} {terminal : TerminalState}

/-! ### Runs of scripts -/

theorem runScript_append (front behind : Script) :
    runScript nested m (front ++ behind) s =
      match runScript nested m front s with
      | (t, .error e) => (t, .error e)
      | (t, .ok ()) => runScript nested m behind t := by
  induction front generalizing s with
  | nil => rfl
  | cons action front ih =>
    rw [List.cons_append, runScript, runScript]
    split
    · rfl
    · exact ih

theorem runScripts_eq (scripts : List Script) :
    runScripts nested m scripts s = runScript nested m scripts.flatten s := by
  induction scripts generalizing s with
  | nil => rfl
  | cons script scripts ih =>
    rw [runScripts, List.flatten_cons, runScript_append]
    rcases runScript nested m script s with ⟨t, e | ⟨⟩⟩
    · rfl
    · exact ih

/-- What a run of hooks comes to, given the run of what they run. -/
inductive HookRun (scripted : Reply Unit) : Reply Unit → Prop
  | succeeded (h : scripted.2 = .ok ()) : HookRun scripted scripted
  /-- A hook has failed or does not exist. -/
  | failed {notes : List Note} {e : Error} (asides : ∀ n ∈ notes, n.IsAside) :
      HookRun scripted (scripted.1.noted notes, .error e)

/-- A hook fails exactly if its script does. -/
theorem runHook_cases {hooks : Hooks} {occasion : Occasion} {id : String}
    (known : hooks.script? occasion id = some script) (m : Move) (s : Session) :
    (∃ t, runScript nested m script s = (t, .ok ()) ∧ s.runHook nested hooks occasion id m = (t, .ok ())) ∨
      ∃ t e e' notes, runScript nested m script s = (t, .error e) ∧
        s.runHook nested hooks occasion id m = (t.noted notes, .error e') ∧ ∀ n ∈ notes, n.IsAside := by
  have called : s.callHook nested hooks occasion id m = runScript nested m script s := by
    rw [callHook, known]
  rw [runHook, called]
  split
  · rename_i t ht
    exact .inl ⟨t, ht, rfl⟩
  · rename_i t e ht
    split
    · exact .inr ⟨t, e, e, [], ht, by rw [noted_nil], List.forall_mem_nil _⟩
    · refine .inr ⟨t, e, _, _, ht, rfl, fun n hn => ?_⟩
      rw [List.mem_singleton.1 hn]
      exact ⟨rfl, rfl, rfl⟩

theorem hookRun_runHook? (hooks : Hooks) (occasion : Occasion) (id : Option String) (m : Move)
    (s : Session) : HookRun (runScript nested m ((id.bind (hooks.script? occasion)).getD []) s)
      (s.runHook? nested hooks occasion id m) := by
  cases id with
  | none => exact .succeeded rfl
  | some id =>
    rw [Option.bind_some, runHook?]
    cases known : hooks.script? occasion id with
    | none =>
      have unknown : HookRun (s, .ok ()) (s.noted [], .error
        (.hook (.unknown occasion id) (some id) (some m.destination) [])) := .failed (List.forall_mem_nil _)
      simpa [runHook, callHook, known, Error.isOwn, Error.isWritable, runScript] using unknown
    | some script =>
      obtain ⟨t, run, hook⟩ | ⟨t, e, e', notes, run, hook, asides⟩ := runHook_cases known m s
      · rw [Option.getD_some, run, hook]
        exact .succeeded rfl
      · rw [Option.getD_some, run, hook]
        exact .failed asides

/-- The hooks of a piece come to one script. -/
theorem hookRun_runPieceHooks (nested : Submission) (kind : PieceKind) (m : Move) (captured : Bool)
    (s : Session) :
    HookRun (runScript nested m (s.pieceScript kind captured) s)
      (s.runPieceHooks nested kind m captured) := by
  have capture (hooks : Hooks) (t : Session) : HookRun
      (runScript nested m
        (if captured then (kind.afterCapture.bind (hooks.script? .afterCapture)).getD [] else []) t)
      (if captured then t.runHook? nested hooks .afterCapture kind.afterCapture m else (t, .ok ())) := by
    cases captured with
    | false => exact .succeeded rfl
    | true => exact hookRun_runHook? hooks .afterCapture kind.afterCapture m t
  rw [pieceScript, runPieceHooks]
  cases s.hooks with
  | none => exact .succeeded rfl
  | some hooks =>
    cases hid : kind.afterMove with
    | none => exact capture hooks s
    | some id =>
      cases known : hooks.script? .afterMove id with
      | none =>
        have unknown : HookRun (s, .ok ()) (s.noted [], .error
            (.hook (.unknown .afterMove id) (some id) (some m.destination) [])) :=
          .failed (List.forall_mem_nil _)
        simpa [known, runHook?, runHook, callHook, Error.isOwn, Error.isWritable,
          runScript] using unknown
      | some script =>
        simp only [known, runHook?, runScript_append]
        obtain ⟨t, run, hook⟩ | ⟨t, e, e', notes, run, hook, asides⟩ := runHook_cases known m s
        · rw [run, hook]
          exact capture hooks t
        · rw [run, hook]
          exact .failed asides

/-- The hooks of a piece succeed exactly if their script does, and otherwise leave asides behind it. -/
theorem runPieceHooks_cases (h : s.runPieceHooks nested kind m captured = (left, hooked)) :
    runScript nested m (s.pieceScript kind captured) s = (left, .ok ()) ∧ hooked = .ok () ∨
      ∃ notes e, (∀ n ∈ notes, n.IsAside) ∧ hooked = .error e ∧
        left = (runScript nested m (s.pieceScript kind captured) s).1.noted notes := by
  have run := hookRun_runPieceHooks nested kind m captured s
  generalize s.runPieceHooks nested kind m captured = reply at h run
  cases run with
  | succeeded ok =>
    rw [h] at ok
    exact .inl ⟨ok ▸ h, ok⟩
  | failed asides =>
    cases h
    exact .inr ⟨_, _, asides, rfl, rfl⟩

/-- The listeners hear of the record first and, if none of them fails, of the end of the game. -/
theorem announce_cases (nested : Submission) (record : Record) (s : Session) :
    (∃ t e, runScript nested record.move s.moveListeners.flatten (s.recording record) = (t, .error e) ∧
      s.announce nested record = (t, .error e)) ∨
    ∃ t, runScript nested record.move s.moveListeners.flatten (s.recording record) = (t, .ok ()) ∧
      s.announce nested record = (t.ring, .ok ()) := by
  rw [announce, runScripts_eq]
  dsimp only
  split
  · rename_i t e ht
    exact .inl ⟨t, e, ht, rfl⟩
  · rename_i t ht
    refine .inr ⟨t, ht, ?_⟩
    rw [ring]
    split <;> rfl

/-! ### What is made inside -/

theorem steps_of_played? {played : Session} {moved : Piece × PieceKind × Bool} {c : Submitted}
    (h : c.played? = some (played, moved)) :
    ∃ checked, c.before.check c.color c.move = (checked, .ok ()) ∧
      checked.playOn c.color c.move = (played, .ok moved) ∧ c.before.Steps played := by
  rw [Submitted.played?] at h
  split at h
  · cases h
  · rename_i checked check
    split at h
    · cases h
    · rename_i played' moved' play
      cases h
      exact ⟨checked, check, play, steps_of_playOn check play⟩

theorem played?_of_accepted (accepted : Accepted nested color m s piece captured left hooked) :
    ∃ played kind, (Submitted.mk s color m).played? = some (played, piece, kind, captured) ∧
      played.runPieceHooks nested kind m captured = (left, hooked) := by
  obtain ⟨checked, played, kind, check, play, hooks⟩ := accepted.exists_stages
  exact ⟨played, kind, by simp [Submitted.played?, check, play], hooks⟩

theorem told_of_passTurn (accepted : Accepted nested color m s piece captured left hooked)
    (pass : left.passTurn color = (passed, .ok (next, terminal))) :
    (Submitted.mk s color m).told nested =
      (passed.recording ⟨color, m, piece.symbol, captured, next, terminal⟩).submittedBy nested m
        passed.moveListeners.flatten := by
  obtain ⟨played, kind, hplayed, hooks⟩ := played?_of_accepted accepted
  simp only [Submitted.told, hplayed, hooks, pass]

variable {c : Submitted}

theorem perform_of_submitted? (nested : Submission) {action : Action}
    (h : s.submitted? action = some c) (m : Move) :
    (s.perform nested m action).1 = (c.through nested).1 ∧
      ((s.perform nested m action).2 = .ok () → (c.through nested).2.isOk) := by
  cases action with
  | submit ticket color move =>
    rw [submitted?] at h
    split at h
    · cases h
    · rename_i unspent
      obtain rfl := Option.some.inj h
      rw [perform, if_neg unspent]
      refine ⟨rfl, fun ok => ?_⟩
      obtain ⟨record, given, -⟩ := map_eq_ok_iff.1 ok
      rw [Submitted.through, given]
      rfl
  | _ => cases h

theorem exists_before_of_submitted? {action : Action} (h : s.submitted? action = some c) :
    ∃ ticket, c.before = { s with spent := ticket :: s.spent } := by
  cases action with
  | submit ticket color move =>
    rw [submitted?] at h
    split at h
    · cases h
    · obtain rfl := Option.some.inj h
      exact ⟨ticket, rfl⟩
  | _ => cases h

theorem steps_of_submitted? {action : Action} (h : s.submitted? action = some c) :
    s.Steps c.before := by
  obtain ⟨ticket, before⟩ := exists_before_of_submitted? h
  exact before ▸ .single (.spend ticket)

/-- A submission that a script makes comes between the beginning and the end of the run, and if the run
succeeds, so does the submission. -/
theorem steps_of_mem_submittedBy (inside : ∀ color m (t : Session), t.Steps (nested color m t).1)
    (h : c ∈ s.submittedBy nested m script) :
    s.Steps c.before ∧ (c.through nested).1.Steps (runScript nested m script s).1 ∧
      ((runScript nested m script s).2 = .ok () → (c.through nested).2.isOk) := by
  induction script generalizing s with
  | nil => cases h
  | cons action script ih =>
    rw [submittedBy, List.mem_append] at h
    rw [runScript]
    rcases h with h | h
    · have made := Option.mem_toList.1 h
      obtain ⟨same, succeeds⟩ := perform_of_submitted? nested made m
      refine ⟨steps_of_submitted? made, ?_⟩
      rw [← same]
      generalize s.perform nested m action = reply at succeeds ⊢
      rcases reply with ⟨t, e | ⟨⟩⟩
      · exact ⟨.refl, fun ok => by cases ok⟩
      · exact ⟨steps_runScript inside m script t, fun _ => succeeds rfl⟩
    · have performed := steps_perform inside m action s
      generalize s.perform nested m action = reply at h performed ⊢
      rcases reply with ⟨t, e | ⟨⟩⟩
      · cases h
      · obtain ⟨front, behind, succeeds⟩ := ih h
        exact ⟨performed.trans front, behind, succeeds⟩

end Session

end VariantChess
