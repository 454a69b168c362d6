import VariantChess.Proofs.Game.Regular

/-!
# Games without hooks

In a game without hooks, whose listeners only watch, a submission either is refused and leaves the
session as it was, or adds one record to the chronicle of the game before the listeners hear of it
(`Chronicled.submitWith_cases`). So every session that is reached is chronicled, whatever moves its
listeners submit themselves (`Chronicled.of_reached`).
-/

namespace VariantChess

namespace Action

/-- The action of a listener that does not edit the board: it says something, fails, ends the game, or
submits a move of its own for one of these sides. -/
def Watches (colors : List Color) : Action → Prop
  | .say _ => True
  | .declareWinner _ => True
  | .raise _ => True
  | .raiseOnce _ _ => True
  | .submit _ color _ => color ∈ colors
  | _ => False

/-- The action declares no winner. -/
def Undeclaring : Action → Prop
  | .declareWinner _ => False
  | _ => True

end Action

namespace Session

/-- A game without hooks that has gone from the starting board as its history tells. Unless one of its
listeners declares a winner, it also stands as the history tells. -/
structure Chronicled (r : Ruleset) (start : Board) (listeners : List Script) (s : Session) : Prop where
  ruleset : s.ruleset = r
  hooks : s.hooks = none
  told : s.moveListeners = listeners
  chronicle : Chronicle r start s.history s.board
  concludes : (∀ script ∈ listeners, ∀ action ∈ script, action.Undeclaring) →
    s.outcome.Concludes s.history

/-- A game without hooks that has not begun, on a ruleset with a compiled catalogue and a board whose
pieces all have entries. Nobody but a hook may edit the board, so the listeners watch. -/
structure Opens (s : Session) : Prop where
  compiled : s.ruleset.catalogue.Compiled
  covers : s.ruleset.catalogue.Covers s.board
  hooks : s.hooks = none
  watched : ∀ script ∈ s.moveListeners, ∀ action ∈ script, action.Watches s.ruleset.colors
  history : s.history = []
  outcome : s.outcome = .inProgress

/-- The sessions to which submissions lead: of any moves for sides in the turn order, in any order, and
of others as long as they are refused. -/
inductive Reached (start : Session) : Session → Prop
  | refl : Reached start start
  | submit {s : Session} {color : Color} {m : Move} (reached : Reached start s)
      (call : color ∈ start.ruleset.colors ∨ ∃ e, (s.check color m).2 = .error e) :
      Reached start (s.submit color m).1

end Session

/-! ### Submissions without hooks -/

variable {r : Ruleset} {start : Board} {listeners : List Script}

namespace Session

variable {s t : Session} {nested : Submission} {color : Color} {m : Move} {e : Error}

namespace Chronicled

theorem of_opens (opens : s.Opens) : s.Chronicled s.ruleset s.board s.moveListeners where
  ruleset := rfl
  hooks := opens.hooks
  told := rfl
  chronicle := by rw [opens.history]; exact .nil
  concludes _ := by rw [opens.history, opens.outcome]; exact ⟨rfl, by simp⟩

theorem noted (h : s.Chronicled r start listeners) (notes : List Note) :
    (s.noted notes).Chronicled r start listeners :=
  ⟨h.ruleset, h.hooks, h.told, h.chronicle, h.concludes⟩

theorem spend (h : s.Chronicled r start listeners) (ticket : Nat) :
    { s with spent := ticket :: s.spent }.Chronicled r start listeners :=
  ⟨h.ruleset, h.hooks, h.told, h.chronicle, h.concludes⟩

/-- An action that only watches keeps what the submissions inside it keep. -/
theorem perform {script : Script} {action : Action}
    (inside : ∀ color m t, color ∈ r.colors → t.Chronicled r start listeners →
      (nested color m t).1.Chronicled r start listeners)
    (watches : action.Watches r.colors) (hscript : script ∈ listeners) (haction : action ∈ script)
    (h : s.Chronicled r start listeners) :
    (s.perform nested m action).1.Chronicled r start listeners := by
  cases action with
  | say tag => exact h.noted _
  | declareWinner color =>
    rw [Session.perform, declareWinner]
    split
    · exact h
    · exact ⟨h.ruleset, h.hooks, h.told, h.chronicle,
        fun undeclaring => (undeclaring script hscript _ haction).elim⟩
  | raise e => exact h
  | raiseOnce ticket e =>
    rw [Session.perform]
    split
    · exact h
    · exact h.spend ticket
  | submit ticket color move =>
    rw [Session.perform]
    split
    · exact h
    · exact inside color move _ watches (h.spend ticket)
  | _ => exact watches.elim

variable (compiled : r.catalogue.Compiled) (covers : r.catalogue.Covers start)
  (h : s.Chronicled r start listeners)
include compiled covers h

theorem regular : s.Regular := by
  obtain ⟨rfl, hooks, -, chronicle, -⟩ := h
  exact ⟨compiled, chronicle.covers covers, .inl hooks⟩

/-- A submission of a side in the turn order is refused and changes nothing, or it adds one record to
the chronicle and gives what the listeners make of it. -/
theorem submitWith_eq (nested : Submission) (hcolor : color ∈ r.colors) (m : Move) :
    (∃ fault, submitWith nested color m s = (s, .error (.move fault (some m)))) ∨
      ∃ (passed : Session) (record : Record), record.color = color ∧ record.move = m ∧
        passed.history = s.history ∧ passed.moveListeners = s.moveListeners ∧ passed.spent = s.spent ∧
        { passed with history := passed.history ++ [record] }.Chronicled r start listeners ∧
        submitWith nested color m s = ((passed.announce nested record).1,
          (passed.announce nested record).2.map fun _ => record) := by
  obtain rfl := h.ruleset
  have regular := h.regular compiled covers
  rcases hcheck : s.check color m with ⟨checked, _ | _⟩
  · rename_i e
    obtain ⟨rfl, fault, rfl⟩ := regular.check_error hcheck
    exact .inl ⟨fault, by rw [submitWith, hcheck]⟩
  · right
    obtain ⟨piece, kind, after, captured, notes, play, hp, hpcolor, geometric, hplay, safe⟩ :=
      regular.exists_playOn hcheck
    have running : s.outcome = .inProgress := Outcome.eq_inProgress_of_running (check_ok hcheck).1
    have left : Regular { s with board := after, notes } :=
      ⟨compiled, regular.covers.of_play hplay, .inl h.hooks⟩
    obtain ⟨next, terminal, notes', pass, hnext, hterminal⟩ := left.exists_passTurn running hcolor
    refine ⟨{ s with board := after, outcome := .behind color terminal, notes := notes' },
      ⟨color, m, piece.symbol, captured, next, terminal⟩, rfl, rfl, rfl, rfl, rfl,
      ⟨rfl, h.hooks, h.told, ?_, fun undeclaring => ?_⟩, ?_⟩
    · obtain ⟨-, -, -, -, -, hcaptured, -⟩ := Board.play_eq_ok_iff.1 hplay
      exact h.chronicle.concat
        ⟨⟨piece, hp, hpcolor, rfl⟩, geometric, hplay, hcaptured, safe, hnext, hterminal⟩
    · have concludes := h.concludes undeclaring
      rw [running] at concludes
      exact concludes.concat ⟨color, m, piece.symbol, captured, next, terminal⟩
    · have unhooked : runPieceHooks { s with board := after, notes } nested kind m captured =
          ({ s with board := after, notes }, .ok ()) := runPieceHooks_of_unhooked (.inl h.hooks)
      rw [submitWith, hcheck]
      simp only [play, unhooked, pass]
      split
      · rename_i ht; rw [ht]; rfl
      · rename_i ht; rw [ht]

/-- A submission of a side in the turn order is refused and changes nothing, or it adds one record to
the chronicle before the listeners hear of it. -/
theorem submitWith_cases (nested : Submission) (hcolor : color ∈ r.colors) (m : Move) :
    (∃ fault, submitWith nested color m s = (s, .error (.move fault (some m)))) ∨
      ∃ (passed : Session) (record : Record), record.color = color ∧ record.move = m ∧
        passed.history = s.history ∧ passed.moveListeners = s.moveListeners ∧
        { passed with history := passed.history ++ [record] }.Chronicled r start listeners ∧
        (submitWith nested color m s).1 = (passed.announce nested record).1 := by
  rcases h.submitWith_eq compiled covers nested hcolor m with refused |
    ⟨passed, record, hc, hm, history, told, -, recorded, reply⟩
  · exact .inl refused
  · exact .inr ⟨passed, record, hc, hm, history, told, recorded, congrArg Prod.fst reply⟩

omit h in
/-- Submissions of sides in the turn order keep a game chronicled, at any depth. -/
theorem submitNested (watched : ∀ script ∈ listeners, ∀ action ∈ script, action.Watches r.colors)
    (levels : Nat) : ∀ color m t, color ∈ r.colors → t.Chronicled r start listeners →
      (submitNested levels color m t).1.Chronicled r start listeners := by
  refine submitNested_keeps (P := Chronicled r start listeners) (Q := (· ∈ r.colors)) ?_ levels
  intro nested inside color m t hcolor h
  rcases h.submitWith_cases compiled covers nested hcolor m with ⟨fault, refused⟩ |
    ⟨passed, record, -, -, -, told, recorded, left⟩
  · rwa [refused]
  · rw [left]
    refine announce_keeps (fun _ notes h => h.noted notes) ?_ recorded
    intro script hscript action haction t ht
    rw [told, h.told] at hscript
    exact ht.perform inside (watched script hscript action haction) hscript haction

end Chronicled

theorem Chronicled.of_reached {start s : Session} (opens : start.Opens) (reached : Reached start s) :
    s.Chronicled start.ruleset start.board start.moveListeners := by
  induction reached with
  | refl => exact .of_opens opens
  | @submit s color m _ call ih =>
    rw [submit]
    rcases call with hcolor | ⟨e, refused⟩
    · exact Chronicled.submitNested opens.compiled opens.covers opens.watched _ color m s hcolor ih
    · rcases hcheck : s.check color m with ⟨t, result⟩
      obtain rfl : result = .error e := by rw [← refused, hcheck]
      obtain ⟨rfl, -⟩ := (ih.regular opens.compiled opens.covers).check_error hcheck
      rwa [Session.submitNested, submitWith, hcheck]

/-! ### What the parts of a session say of each other -/

/-- Board, history and outcome agree, for a game that began with the starting board. -/
structure Faithful (start : Board) (s : Session) : Prop where
  /-- The board is the starting board with the moves of the history played one after the other. -/
  board : start.replay (s.history.map (·.move)) = .ok s.board
  /-- Every record describes the position that its move was played in and the one right after it. -/
  records : ∀ earlier record later, s.history = earlier ++ record :: later →
    ∃ before after, start.replay (earlier.map (·.move)) = .ok before ∧
      record.Describes s.ruleset before after
  /-- Only the last record can say that the next side cannot play. -/
  last : ∀ earlier record later, s.history = earlier ++ record :: later →
    record.nextState ≠ .playable → later = []
  inProgress_iff : s.outcome = .inProgress ↔ ∀ record ∈ s.history, record.nextState = .playable
  win_iff : ∀ winner, s.outcome = .win winner ↔
    ∃ record, s.history.getLast? = some record ∧ record.nextState = .checkmated ∧ record.color = winner
  draw_iff : s.outcome = .draw ↔
    ∃ record, s.history.getLast? = some record ∧ record.nextState = .stalemated
  winner_safe : ∀ winner, s.outcome = .win winner → s.isInCheck winner = .ok false

theorem Chronicled.faithful (compiled : r.catalogue.Compiled) (covers : r.catalogue.Covers start)
    (undeclaring : ∀ script ∈ listeners, ∀ action ∈ script, action.Undeclaring)
    (h : s.Chronicled r start listeners) : s.Faithful start := by
  have concludes := h.concludes undeclaring
  obtain ⟨rfl, -, -, chronicle, -⟩ := h
  refine ⟨chronicle.replay, fun earlier record later history => ?_,
    fun _ _ _ => concludes.later_eq_nil, concludes.inProgress_iff, fun _ => concludes.win_iff,
    concludes.draw_iff, fun winner won => ?_⟩
  · obtain ⟨before, after, past, describes⟩ := chronicle.exists_past history
    exact ⟨before, after, past.replay, describes⟩
  · obtain ⟨record, hlast, -, rfl⟩ := concludes.win_iff.1 won
    exact (isInCheck_eq_false_iff compiled (chronicle.covers covers)).2 (chronicle.not_threatened hlast)

/-- Whatever moves have been submitted for the sides of a game without hooks in which no winner is
declared, board, history and outcome agree; and the next submission is refused with an error of the
move and changes nothing, or its record comes right behind the history. -/
theorem faithful_of_reached {start s : Session} (opens : start.Opens)
    (undeclaring : ∀ script ∈ start.moveListeners, ∀ action ∈ script, action.Undeclaring)
    (reached : Reached start s) :
    s.Faithful start.board ∧ ∀ color ∈ start.ruleset.colors, ∀ m,
      (∃ fault, s.submit color m = (s, .error (.move fault (some m)))) ∨
        ∃ record, record.color = color ∧ record.move = m ∧
          s.history ++ [record] <+: (s.submit color m).1.history := by
  have h := Chronicled.of_reached opens reached
  refine ⟨h.faithful opens.compiled opens.covers undeclaring, fun color hcolor m => ?_⟩
  rcases h.submitWith_cases opens.compiled opens.covers (submitNested s.tickets) hcolor m with refused |
    ⟨passed, record, rfl, rfl, history, -, -, left⟩
  · exact .inl refused
  · refine .inr ⟨record, rfl, rfl, ?_⟩
    rw [← history, submit, Session.submitNested, left]
    exact (continues_announce (continues_submitNested s.tickets) record passed).history

end Session

/-- A king and a rook against a king, who is mated in one move. -/
def duel : Ruleset where
  name := "duel"
  catalogue := {
    entries := [
      ("k", {
        name := "king"
        rules := [.mk { distance := .exact 1 } [.heading .all] none]
        royal := true }),
      ("r", { name := "rook", rules := [.mk {} [.heading .orthogonal] none] })] }
  board := .ofRows [
    [some ⟨"k", .black, false⟩, none, none],
    [none, none, none],
    [some ⟨"k", .white, false⟩, none, some ⟨"r", .white, false⟩]]
  colors := [.white, .black]
  colors_ne_nil := by decide
  colors_nodup := by decide
  symbol_mem := by decide

/-- The duel before the first move, with a listener. -/
def duelOpening : Session where
  ruleset := duel
  board := duel.board
  moveListeners := [[.say "moved"]]

theorem opens_duelOpening : duelOpening.Opens where
  compiled := by
    refine List.forall_mem_cons.2 ⟨⟨"1*", ?_⟩, List.forall_mem_singleton.2 ⟨"n+", ?_⟩⟩
    · rfl
    · rfl
  covers := duel.symbol_mem
  hooks := rfl
  watched := by simp [duelOpening, Action.Watches]
  history := rfl
  outcome := rfl

/-- The rook gives mate, so that the board, the history and the outcome have all changed. -/
theorem faithful_of_reached_duel :
    let s := (duelOpening.submit .white ⟨⟨2, 2⟩, ⟨2, 0⟩⟩).1
    duelOpening.Opens ∧
    (∀ script ∈ duelOpening.moveListeners, ∀ action ∈ script, action.Undeclaring) ∧
    duelOpening.Reached s ∧ s.outcome = .win .white ∧
    s.Faithful duelOpening.board ∧ ∀ color ∈ duel.colors, ∀ m,
      (∃ fault, s.submit color m = (s, .error (.move fault (some m)))) ∨
        ∃ record, record.color = color ∧ record.move = m ∧
          s.history ++ [record] <+: (s.submit color m).1.history := by
  have won : (duelOpening.submit .white ⟨⟨2, 2⟩, ⟨2, 0⟩⟩).1.outcome = .win .white := by rfl
  have undeclaring : ∀ script ∈ duelOpening.moveListeners, ∀ action ∈ script, action.Undeclaring := by
    simp [duelOpening, Action.Undeclaring]
  have reached : duelOpening.Reached (duelOpening.submit .white ⟨⟨2, 2⟩, ⟨2, 0⟩⟩).1 :=
    .submit .refl (.inl (by decide))
  exact ⟨opens_duelOpening, undeclaring, reached, won,
    Session.faithful_of_reached opens_duelOpening undeclaring reached⟩

end VariantChess
