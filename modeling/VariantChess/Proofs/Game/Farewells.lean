import VariantChess.Proofs.Game.Nesting
import VariantChess.Proofs.Game.Verdicts

/-!
# Who is told that the game is over

Every submission that has had its move recorded looks whether the game is over and then tells the
listeners. A submission inside another one does so before the outer one, and the outer one does not ask
who has ended the game. So the listeners are told once if no submission ends the game from inside
another one, whatever winners are declared where (`Fresh.farewells_after`), and again if one does and
nothing fails (`two_mul_count_le_timesTold`).
-/

namespace VariantChess

namespace Submitted

/-- The game is over behind the submission and was not before. -/
def Ends (submission : Submission) (c : Submitted) : Prop :=
  c.before.outcome.isOver = false ∧ (c.through submission).1.outcome.isOver

/-- One of the submissions directly inside ends the game. -/
def EndsInside (nested : Submission) (c : Submitted) : Prop :=
  ∃ inner ∈ c.inside nested, inner.Ends nested

instance (submission : Submission) : DecidablePred (Ends submission) :=
  fun _ => inferInstanceAs (Decidable (_ ∧ _))

instance (nested : Submission) : DecidablePred (EndsInside nested) :=
  fun c => inferInstanceAs (Decidable (∃ inner ∈ c.inside nested, inner.Ends nested))

end Submitted

namespace Session

/-- All listeners are told how the game stands. -/
def round (s : Session) : List (String × Outcome) := s.overListeners.map fun tag => (tag, s.outcome)

/-- How many times listeners with the tag have been told that the game is over. -/
def timesTold (s : Session) (tag : String) : Nat := (s.farewells.map (·.1)).count tag

/-- No listener has been told twice that the game is over. -/
def ToldAtMostOnce (s : Session) : Prop := ∀ tag, s.timesTold tag ≤ s.overListeners.count tag

variable {nested : Submission} {color : Color} {m : Move} {start s t left : Session} {script : Script}
  {piece : Piece} {captured : Bool} {hooked : Except Error Unit} {c : Submitted}

/-! ### Nobody is told -/

theorem farewells_of_check {result : Except Error Unit} (h : s.check color m = (t, result)) :
    t.farewells = s.farewells := by
  obtain ⟨notes, asides, rfl⟩ := exists_asides_of_check h
  exact farewells_noted_asides asides

theorem farewells_of_playOn {moved : Piece × PieceKind × Bool}
    (h : s.playOn color m = (t, .ok moved)) : t.farewells = s.farewells := by
  obtain ⟨-, after, -, -, rfl⟩ := playOn_ok h
  exact farewells_noted.trans (List.append_nil _)

theorem farewells_of_passTurn {result : Except Error (Color × TerminalState)}
    (h : s.passTurn color = (t, result)) : t.farewells = s.farewells := by
  obtain ⟨notes, asides, rfl | ⟨-, outcome, -, rfl⟩⟩ := exists_asides_of_passTurn h
  · exact farewells_noted_asides asides
  · exact (farewells_finish outcome).trans (farewells_noted_asides asides)

theorem farewells_declareWinner (color : Color) (s : Session) :
    (s.declareWinner color).1.farewells = s.farewells := by
  obtain same | ⟨-, same⟩ := s.declareWinner_cases color
  · rw [same]
  · rw [same, farewells_finish]

theorem farewells_write (square : Square) (cell : Cell) :
    (s.write square cell).1.farewells = s.farewells := by
  obtain ⟨board, same⟩ := s.exists_board_of_write square cell
  exact same ▸ rfl

theorem farewells_promote (symbol : String) (m : Move) :
    (s.promote symbol m).1.farewells = s.farewells := by
  obtain ⟨board, same⟩ := s.exists_board_of_promote symbol m
  exact same ▸ rfl

/-- Only submissions tell the listeners. -/
theorem farewells_perform {action : Action} (h : s.submitted? action = none) (m : Move) :
    (s.perform nested m action).1.farewells = s.farewells := by
  cases action with
  | say tag => exact farewells_noted.trans (List.append_nil _)
  | declareWinner color => exact farewells_declareWinner color s
  | remove place => exact farewells_write _ _
  | put place cell => exact farewells_write _ _
  | promote symbol => exact farewells_promote symbol m
  | raise e => rfl
  | raiseOnce ticket e =>
    rw [perform]
    split <;> rfl
  | submit ticket color move =>
    rw [submitted?] at h
    split at h
    · rename_i used
      rw [perform, if_pos used]
    · cases h

/-! ### At most one round -/

theorem Fresh.farewells_eq_nil (fresh : start.Fresh) (steps : start.Steps s)
    (running : s.outcome.isOver = false) : s.farewells = [] := by
  refine List.eq_nil_iff_forall_not_mem.2 fun farewell hmem => ?_
  have ended := (fresh.farewell_eq steps farewell hmem).1
  rw [running] at ended
  cases ended

theorem submitNested_of_isOver (levels : Nat) (color : Color) (m : Move) (ended : s.outcome.isOver) :
    (submitNested levels color m s).1 = s := by
  cases levels with
  | zero => rfl
  | succ levels => rw [submitNested, submitWith, check, if_pos ended]

/-- A submission that does not end the game tells nobody. -/
theorem Fresh.farewells_through (fresh : start.Fresh) (steps : start.Steps c.before) {levels : Nat}
    (unending : ¬ c.Ends (submitNested levels)) :
    (c.through (submitNested levels)).1.farewells = c.before.farewells := by
  have behind : c.before.Steps (c.through (submitNested levels)).1 := steps_submitNested levels _ _ _
  cases running : c.before.outcome.isOver with
  | true => rw [Submitted.through, submitNested_of_isOver levels _ _ running]
  | false =>
    have goesOn : (c.through (submitNested levels)).1.outcome.isOver = false :=
      eq_false_of_ne_true fun ended => unending ⟨running, ended⟩
    rw [fresh.farewells_eq_nil steps running, fresh.farewells_eq_nil (steps.trans behind) goesOn]

/-- A script tells nobody unless a submission of it ends the game. -/
theorem Fresh.farewells_runScript (fresh : start.Fresh) (steps : start.Steps s) {levels : Nat}
    (unending : ∀ c ∈ s.submittedBy (submitNested levels) m script, ¬ c.Ends (submitNested levels)) :
    (runScript (submitNested levels) m script s).1.farewells = s.farewells := by
  induction script generalizing s with
  | nil => rfl
  | cons action script ih =>
    rw [submittedBy, List.forall_mem_append] at unending
    obtain ⟨first, rest⟩ := unending
    have told : (s.perform (submitNested levels) m action).1.farewells = s.farewells := by
      cases made : s.submitted? action with
      | none => exact farewells_perform made m
      | some c =>
        have before : c.before.farewells = s.farewells := by
          obtain ⟨ticket, before⟩ := exists_before_of_submitted? made
          rw [before]
          rfl
        rw [(perform_of_submitted? _ made m).1, ← before]
        exact fresh.farewells_through (steps.trans (steps_of_submitted? made))
          (first c (Option.mem_toList.2 made))
    have performed := steps_perform (steps_submitNested levels) m action s
    rw [runScript]
    generalize s.perform (submitNested levels) m action = reply at rest told performed ⊢
    rcases reply with ⟨t, e | ⟨⟩⟩
    · exact told
    · exact (ih (steps.trans performed) rest).trans told

theorem outcome_ring (s : Session) : s.ring.outcome = s.outcome := by
  rw [Session.ring]
  split <;> rfl

theorem overListeners_ring (s : Session) : s.ring.overListeners = s.overListeners := by
  rw [Session.ring]
  split <;> rfl

theorem farewells_ring (ended : s.outcome.isOver) : s.ring.farewells = s.farewells ++ s.round := by
  rw [Session.ring, if_pos ended, farewells_noted, farewells_round, round]

/-- Running the hooks of a piece tells nobody unless a submission of theirs ends the game. -/
theorem Fresh.farewells_accepted (fresh : start.Fresh) (steps : start.Steps s) {levels : Nat}
    (accepted : Accepted (submitNested levels) color m s piece captured left hooked)
    (unending : ¬ (Submitted.mk s color m).EndsInside (submitNested levels)) :
    left.farewells = s.farewells := by
  obtain ⟨played, kind, hplayed, hooks⟩ := played?_of_accepted accepted
  obtain ⟨checked, check, play, front⟩ := steps_of_played? hplayed
  have untold : played.farewells = s.farewells :=
    (farewells_of_playOn play).trans (farewells_of_check check)
  have script :
      (runScript (submitNested levels) m (played.pieceScript kind captured) played).1.farewells =
        s.farewells := by
    rw [← untold]
    refine fresh.farewells_runScript (steps.trans front) fun c hc ends => unending ⟨c, ?_, ends⟩
    exact List.mem_append_left _ (by simpa only [Submitted.hooked, hplayed] using hc)
  rw [← script]
  obtain ⟨ran, -⟩ | ⟨notes, e, asides, -, rfl⟩ := runPieceHooks_cases hooks
  · rw [ran]
  · exact farewells_noted_asides asides

/-- The listeners hear of the record, and then of the end of the game if none of them has failed. -/
theorem Fresh.farewells_announce (fresh : start.Fresh) (steps : start.Steps s) {levels : Nat}
    {record : Record} (untold : s.farewells = [])
    (unending : ∀ c ∈ (s.recording record).submittedBy (submitNested levels) record.move
      s.moveListeners.flatten, ¬ c.Ends (submitNested levels)) :
    (s.announce (submitNested levels) record).1.farewells = [] ∨
      (s.announce (submitNested levels) record).1.farewells =
        (s.announce (submitNested levels) record).1.round := by
  have recording : start.Steps (s.recording record) := steps.tail (.record record)
  have heard := (fresh.farewells_runScript recording unending).trans untold
  obtain ⟨t, e, run, announce⟩ | ⟨t, run, announce⟩ := announce_cases (submitNested levels) record s
  · rw [run] at heard
    rw [announce]
    exact .inl heard
  · rw [run] at heard
    rw [announce]
    cases ended : t.outcome.isOver with
    | false => exact .inl (by rwa [ring, if_neg (by simp [ended])])
    | true =>
      refine .inr ?_
      rw [farewells_ring ended, heard, round, round, outcome_ring, overListeners_ring]
      rfl

/-- Behind a submission in which no other ends the game, nobody has been told that it is over, or
everybody has, once. -/
theorem Fresh.farewells_submitNested (fresh : start.Fresh) (steps : start.Steps s)
    (running : s.outcome.isOver = false) {levels : Nat}
    (unending : ¬ (Submitted.mk s color m).EndsInside (submitNested levels)) :
    (submitNested (levels + 1) color m s).1.farewells = [] ∨
      (submitNested (levels + 1) color m s).1.farewells =
        (submitNested (levels + 1) color m s).1.round := by
  have untold : s.farewells = [] := fresh.farewells_eq_nil steps running
  have announced {left passed : Session} {piece : Piece} {captured : Bool} {hooked : Except Error Unit}
      {next : Color} {terminal : TerminalState}
      (accepted : Accepted (submitNested levels) color m s piece captured left hooked)
      (pass : left.passTurn color = (passed, .ok (next, terminal))) :
      let t := (passed.announce (submitNested levels)
        ⟨color, m, piece.symbol, captured, next, terminal⟩).1
      t.farewells = [] ∨ t.farewells = t.round := by
    have front : start.Steps passed :=
      steps.trans (accepted.steps_of_passTurn (steps_submitNested levels) pass)
    have quiet : passed.farewells = [] :=
      ((farewells_of_passTurn pass).trans (fresh.farewells_accepted steps accepted unending)).trans untold
    refine fresh.farewells_announce front quiet fun c hc ends => ?_
    exact unending ⟨c, List.mem_append_right _ (by rwa [told_of_passTurn accepted pass]), ends⟩
  have course := course_submitWith (submitNested levels) color m s
  rw [submitNested]
  generalize submitWith (submitNested levels) color m s = reply at course
  cases course with
  | refused check => exact .inl ((farewells_of_check check).trans untold)
  | unplayable check play =>
    obtain rfl := playOn_error play
    exact .inl ((farewells_of_check check).trans untold)
  | stranded accepted pass =>
    have hooked := (fresh.farewells_accepted steps accepted unending).trans untold
    exact .inl ((farewells_of_passTurn pass).trans hooked)
  | unheard accepted pass announce => simpa only [announce] using announced accepted pass
  | recorded accepted pass announce => simpa only [announce] using announced accepted pass

/-- The same of a whole run of calls. -/
theorem Fresh.farewells_after (fresh : start.Fresh) (steps : start.Steps s)
    (single : s.farewells = [] ∨ s.farewells = s.round) {calls : List Call}
    (unending : ∀ c ∈ s.submittedIn calls, ¬ c.EndsInside (submitNested c.before.tickets)) :
    (s.after calls).farewells = [] ∨ (s.after calls).farewells = (s.after calls).round := by
  induction calls generalizing s with
  | nil => exact single
  | cons call calls ih =>
    cases running : s.outcome.isOver with
    | true => rwa [after_of_isOver running]
    | false =>
      have untold : s.farewells = [] := fresh.farewells_eq_nil steps running
      have made := steps.trans (s.steps_make call)
      rw [after_cons]
      cases call with
      | submit color m =>
        rw [submittedIn, List.forall_mem_cons] at unending
        obtain ⟨first, rest⟩ := unending
        exact ih made (fresh.farewells_submitNested steps running first) rest
      | declareWinner color =>
        rw [submittedIn] at unending
        exact ih made (.inl ((farewells_declareWinner color s).trans untold)) unending

/-! ### A second round -/

theorem timesTold_ring (ended : s.outcome.isOver) (tag : String) :
    s.ring.timesTold tag = s.timesTold tag + s.overListeners.count tag := by
  have tags : s.round.map (·.1) = s.overListeners := by simp [round, Function.comp_def]
  rw [timesTold, farewells_ring ended, List.map_append, List.count_append, tags, timesTold]

theorem Steps.timesTold_le (steps : s.Steps t) (tag : String) : s.timesTold tag ≤ t.timesTold tag := by
  obtain ⟨notes, grown⟩ := steps.follows.notes
  have told : t.farewells = s.farewells ++ notes.filterMap Note.farewell? := by
    rw [farewells, ← grown, List.filterMap_append, farewells]
  rw [timesTold, timesTold, told, List.map_append, List.count_append]
  exact Nat.le_add_right _ _

section
variable (inside : ∀ color m (t : Session), t.Steps (nested color m t).1)
include inside

/-- If a submission returns a record, so do those inside it, and they come before the listeners are told
of the end of the game. -/
theorem exists_ring_of_isOk (ok : (c.through (submitWith nested)).2.isOk) :
    ∃ t, (c.through (submitWith nested)).1 = t.ring ∧ c.before.Steps t ∧
      ∀ inner ∈ c.inside nested, (inner.through nested).2.isOk ∧ (inner.through nested).1.Steps t := by
  rcases reply : submitWith nested c.color c.move c.before with ⟨u, e | record⟩
  · rw [Submitted.through, reply] at ok
    cases ok
  obtain ⟨left, passed, piece, captured, next, terminal, accepted, pass, rfl, announce⟩ :=
    exists_stages_of_ok reply
  obtain ⟨_, _, -, failed⟩ | ⟨t, run, told⟩ := announce_cases nested
    ⟨c.color, c.move, piece.symbol, captured, next, terminal⟩ passed
  · cases announce.symm.trans failed
  have same : (c.through (submitWith nested)).1 = t.ring := by
    rw [Submitted.through, reply]
    exact congrArg Prod.fst (announce.symm.trans told)
  have listening := steps_runScript inside c.move passed.moveListeners.flatten
    (passed.recording ⟨c.color, c.move, piece.symbol, captured, next, terminal⟩)
  rw [run] at listening
  have behind : left.Steps t := ((steps_of_passTurn pass).tail (.record _)).trans listening
  refine ⟨t, same, (accepted.steps inside).trans behind, fun inner hinner => ?_⟩
  rcases List.mem_append.1 hinner with hinner | hinner
  · obtain ⟨played, kind, hplayed, hooks⟩ := played?_of_accepted accepted
    simp only [Submitted.hooked, hplayed] at hinner
    obtain ⟨-, steps, succeeds⟩ := steps_of_mem_submittedBy inside hinner
    obtain ⟨ran, -⟩ | ⟨_, _, -, failed, -⟩ := runPieceHooks_cases hooks
    · rw [ran] at steps succeeds
      exact ⟨succeeds rfl, steps.trans behind⟩
    · cases failed
  · rw [told_of_passTurn accepted pass] at hinner
    obtain ⟨-, steps, succeeds⟩ := steps_of_mem_submittedBy inside hinner
    rw [run] at steps succeeds
    exact ⟨succeeds rfl, steps⟩

end

/-- A submission that returns a record and behind which the game is over has told the listeners. -/
theorem count_le_timesTold {levels : Nat} (ok : (c.through (submitNested levels)).2.isOk)
    (ended : (c.through (submitNested levels)).1.outcome.isOver) (tag : String) :
    (c.through (submitNested levels)).1.overListeners.count tag ≤
      (c.through (submitNested levels)).1.timesTold tag := by
  cases levels with
  | zero => cases ok
  | succ levels =>
    obtain ⟨t, same, -, -⟩ := exists_ring_of_isOk (steps_submitNested levels) ok
    rw [submitNested, same] at ended ⊢
    rw [outcome_ring] at ended
    rw [timesTold_ring ended, overListeners_ring]
    exact Nat.le_add_left _ _

/-- If the game ends inside a submission that returns a record, the listeners are told twice. -/
theorem two_mul_count_le_timesTold {levels : Nat} (ok : (c.through (submitNested (levels + 1))).2.isOk)
    (ends : c.EndsInside (submitNested levels)) (tag : String) :
    2 * c.before.overListeners.count tag ≤ (c.through (submitNested (levels + 1))).1.timesTold tag := by
  obtain ⟨t, same, steps, inside⟩ := exists_ring_of_isOk (steps_submitNested levels) ok
  obtain ⟨inner, hinner, -, ending⟩ := ends
  obtain ⟨recorded, behind⟩ := inside inner hinner
  have ended : t.outcome.isOver := by rwa [behind.outcome_eq ending]
  have first := Nat.le_trans (count_le_timesTold recorded ending tag) (behind.timesTold_le tag)
  rw [← behind.follows.overListeners, steps.follows.overListeners] at first
  rw [submitNested, same, timesTold_ring ended, steps.follows.overListeners]
  omega

/-- The sessions in which calls from outside are made, and what they leave, come one after the other. -/
theorem steps_of_mem_submittedIn {calls : List Call} (h : c ∈ s.submittedIn calls) :
    s.Steps c.before ∧ (c.before.submit c.color c.move).1.Steps (s.after calls) := by
  induction calls generalizing s with
  | nil => cases h
  | cons call calls ih =>
    have made := s.steps_make call
    rw [after_cons]
    cases call with
    | submit color m =>
      rcases List.mem_cons.1 h with rfl | h
      · exact ⟨.refl, steps_after _ _⟩
      · exact ⟨made.trans (ih h).1, (ih h).2⟩
    | declareWinner color => exact ⟨made.trans (ih h).1, (ih h).2⟩

/-- Nobody is told twice that the game is over unless it is ended by a submission inside another one,
whoever declares winners and whatever fails; and if it is, by one inside a submission that returns a
record, then everybody is told twice. -/
theorem toldAtMostOnce_after (fresh : start.Fresh) (calls : List Call) :
    ((∀ c ∈ start.submittedIn calls, ¬ c.EndsInside (submitNested c.before.tickets)) →
      (start.after calls).ToldAtMostOnce) ∧
    (start.overListeners ≠ [] → (start.after calls).ToldAtMostOnce →
      ∀ c ∈ start.submittedIn calls, (c.before.submit c.color c.move).2.isOk →
        ¬ c.EndsInside (submitNested c.before.tickets)) := by
  constructor
  · intro unending tag
    have untold : start.farewells = [] := by rw [farewells, fresh.notes]; rfl
    rcases fresh.farewells_after .refl (.inl untold) unending with none | single
    · rw [timesTold, none]
      exact Nat.zero_le _
    · rw [timesTold, single, round, List.map_map]
      simp [Function.comp_def]
  · intro someone single c hc ok ends
    obtain ⟨tag, htag⟩ := List.exists_mem_of_ne_nil _ someone
    obtain ⟨front, behind⟩ := steps_of_mem_submittedIn hc
    have twice := Nat.le_trans (two_mul_count_le_timesTold ok ends tag) (behind.timesTold_le tag)
    have once := single tag
    have told : 0 < start.overListeners.count tag := List.count_pos_iff.2 htag
    rw [front.follows.overListeners] at twice
    rw [(start.steps_after calls).follows.overListeners] at once
    omega

end Session

/-- The hook moves the rook and then declares its side the winner. -/
def tollOpening : Session :=
  { rushOpening with
    hooks := some { afterMove := [("rush", [.submit 0 .white ⟨⟨2, 2⟩, ⟨2, 1⟩⟩, .declareWinner .white])] } }

/-- The submission of the hook does not end the game, so the bell rings once. -/
theorem toldAtMostOnce_after_toll :
    let calls : List Call := [.submit .white ⟨⟨0, 2⟩, ⟨1, 2⟩⟩, .submit .black ⟨⟨0, 0⟩, ⟨1, 0⟩⟩]
    let s := tollOpening.after calls
    tollOpening.Fresh ∧ s.history.length = 2 ∧ s.timesTold "bell" = 1 ∧ s.ToldAtMostOnce ∧
    ((∀ c ∈ tollOpening.submittedIn calls, ¬ c.EndsInside (Session.submitNested c.before.tickets)) →
      s.ToldAtMostOnce) ∧
    (tollOpening.overListeners ≠ [] → s.ToldAtMostOnce →
      ∀ c ∈ tollOpening.submittedIn calls, (c.before.submit c.color c.move).2.isOk →
        ¬ c.EndsInside (Session.submitNested c.before.tickets)) := by
  intro calls s
  have fresh : tollOpening.Fresh := ⟨rfl, rfl, rfl⟩
  have recorded : s.history.length = 2 := by decide +kernel
  have rung : s.timesTold "bell" = 1 := by decide +kernel
  have unending : ∀ c ∈ tollOpening.submittedIn calls,
      ¬ c.EndsInside (Session.submitNested c.before.tickets) := by decide +kernel
  have told := Session.toldAtMostOnce_after fresh calls
  exact ⟨fresh, recorded, rung, told.1 unending, told⟩

/-- The hook mates with the rook. -/
def matingOpening : Session :=
  { rushOpening with
    hooks := some { afterMove := [("rush", [.submit 0 .white ⟨⟨2, 2⟩, ⟨2, 0⟩⟩])] } }

/-- Both the submission of the hook and the one around it ring the bell. -/
theorem not_toldAtMostOnce_mating :
    matingOpening.Fresh ∧
      ¬ (matingOpening.after [.submit .white ⟨⟨0, 2⟩, ⟨1, 2⟩⟩]).ToldAtMostOnce := by
  have twice : (matingOpening.after [.submit .white ⟨⟨0, 2⟩, ⟨1, 2⟩⟩]).timesTold "bell" = 2 := by
    decide +kernel
  have once : (matingOpening.after [.submit .white ⟨⟨0, 2⟩, ⟨1, 2⟩⟩]).overListeners.count "bell" = 1 := by
    decide +kernel
  refine ⟨⟨rfl, rfl, rfl⟩, fun told => ?_⟩
  have := told "bell"
  omega

end VariantChess
