import VariantChess.Proofs.Catalogue
import VariantChess.Proofs.Game.Course

/-!
# Submissions that fail

A submission that fails is *settled* if it leaves board, history and outcome as they were, or if the
last record is the one of its move. It is not settled in two cases, and in no others
(`settled_iff_of_error`): the move has been played, but the turn cannot be passed on, so that it is
never recorded; or the failure of a hook is still to be returned when a listener has a further move
recorded. In the first case it depends on what the hooks of the piece have done to board, history and
outcome (`Unaccounted`); where there are none, the move is stranded (`stranded_iff_of_unhooked`).
-/

namespace VariantChess

namespace Session

/-- Board, history and outcome are what they were. -/
def Unchanged (s t : Session) : Prop :=
  t.board = s.board ∧ t.history = s.history ∧ t.outcome = s.outcome

/-- The last record is a new one, of this side and this move. -/
def Recorded (color : Color) (m : Move) (s t : Session) : Prop :=
  ∃ earlier record, t.history = earlier ++ [record] ∧ s.history <+: earlier ∧
    record.color = color ∧ record.move = m

/-- A failed submission has had no effect at all, or its effect is in the history. -/
def Settled (color : Color) (m : Move) (s t : Session) : Prop := s.Unchanged t ∨ s.Recorded color m t

/-- The turn cannot be passed on: the side is not in the turn order, or the game goes on and it cannot
be found out whether the next side can play. -/
def Stuck (s : Session) (color : Color) : Prop :=
  color ∉ s.ruleset.colors ∨ s.outcome.isOver = false ∧
    ∃ next e, s.ruleset.nextColor color = .ok next ∧ (s.terminalState next).result = .error e

/-- The ways in which the hooks of a move can leave a game that does not account for it. -/
inductive Unaccounted (color : Color) (m : Move) (s left : Session) : Prop
  /-- They have had no move recorded, and have not put the board back. -/
  | displaced (history : left.history = s.history) (board : left.board ≠ s.board)
  /-- They have had no move recorded, and have declared a winner. -/
  | decided (history : left.history = s.history) (outcome : left.outcome ≠ s.outcome)
  /-- They have had moves recorded, and the last of these is another one. -/
  | superseded {earlier : List Record} {last : Record} (history : left.history = earlier ++ [last])
      (grown : s.history <+: earlier) (other : ¬ (last.color = color ∧ last.move = m))

/-- The move is played and its hooks have run, but the turn cannot be passed on, and what the hooks have
left does not account for the move. -/
def Stranded (nested : Submission) (color : Color) (m : Move) (s : Session) : Prop :=
  ∃ piece captured left hooked, Accepted nested color m s piece captured left hooked ∧
    left.Stuck color ∧ Unaccounted color m s left

/-- The move is recorded, but behind it there are records of other submissions, and the last record is
another one. -/
def Overtaken (color : Color) (m : Move) (s t : Session) : Prop :=
  ∃ earlier record later last, t.history = earlier ++ record :: (later ++ [last]) ∧
    s.history <+: earlier ∧ record.color = color ∧ record.move = m ∧
    ¬ (last.color = color ∧ last.move = m)

/-- No listener fails when it is told of the move. -/
def Heard (nested : Submission) (color : Color) (m : Move) (s : Session) : Prop :=
  ∀ piece captured left hooked passed next terminal,
    Accepted nested color m s piece captured left hooked →
    left.passTurn color = (passed, .ok (next, terminal)) →
    (passed.announce nested ⟨color, m, piece.symbol, captured, next, terminal⟩).2 = .ok ()

variable {s t left left' : Session} {nested : Submission} {color next : Color} {m : Move} {e : Error}
  {piece piece' : Piece} {captured captured' : Bool} {hooked hooked' : Except Error Unit}

theorem exists_passTurn_error_iff : (∃ t e, s.passTurn color = (t, .error e)) ↔ s.Stuck color := by
  rw [Stuck, ← Ruleset.exists_nextColor_iff, passTurn]
  cases hnext : s.ruleset.nextColor color with
  | error e => simp
  | ok next =>
    cases s.outcome.isOver with
    | true => simp
    | false => cases hstate : (s.terminalState next).result <;> simp [hstate]

/-- The stages of a submission are determined. -/
theorem Accepted.unique (accepted : Accepted nested color m s piece captured left hooked)
    (accepted' : Accepted nested color m s piece' captured' left' hooked') : left = left' := by
  obtain ⟨checked, played, kind, check, play, hooks⟩ := accepted.exists_stages
  obtain ⟨checked', played', kind', check', play', hooks'⟩ := accepted'.exists_stages
  obtain rfl : checked = checked' := congrArg Prod.fst (check.symm.trans check')
  cases play.symm.trans play'
  exact congrArg Prod.fst (hooks.symm.trans hooks')

theorem Stranded.of_accepted (stranded : Stranded nested color m s)
    (accepted : Accepted nested color m s piece captured left hooked) :
    left.Stuck color ∧ Unaccounted color m s left := by
  obtain ⟨piece', captured', left', hooked', accepted', stuck, unaccounted⟩ := stranded
  obtain rfl := accepted.unique accepted'
  exact ⟨stuck, unaccounted⟩

theorem Recorded.length_lt (recorded : Recorded color m s t) : s.history.length < t.history.length := by
  obtain ⟨earlier, record, history, grown, -⟩ := recorded
  rw [history, List.length_append, List.length_singleton]
  exact Nat.lt_succ_of_le grown.length_le

theorem Recorded.last_eq {earlier : List Record} {last : Record} (recorded : Recorded color m s t)
    (history : t.history = earlier ++ [last]) : last.color = color ∧ last.move = m := by
  obtain ⟨earlier', record, history', -, same⟩ := recorded
  obtain ⟨-, hlast⟩ := List.append_inj' (history.symm.trans history') rfl
  obtain rfl : last = record := by simpa using hlast
  exact same

theorem Unaccounted.not_settled (unaccounted : Unaccounted color m s left) : ¬ Settled color m s left := by
  cases unaccounted with
  | displaced history board =>
    rintro (unchanged | recorded)
    · exact board unchanged.1
    · exact absurd recorded.length_lt (by rw [history]; exact Nat.lt_irrefl _)
  | decided history outcome =>
    rintro (unchanged | recorded)
    · exact outcome unchanged.2.2
    · exact absurd recorded.length_lt (by rw [history]; exact Nat.lt_irrefl _)
  | superseded history grown other =>
    rintro (unchanged | recorded)
    · have longer := congrArg List.length (history.symm.trans unchanged.2.1)
      rw [List.length_append, List.length_singleton] at longer
      have := grown.length_le
      omega
    · exact other (recorded.last_eq history)

/-- Where the history has only grown, there are no other ways for the hooks to leave the move unsettled. -/
theorem unaccounted_iff_not_settled (grown : s.history <+: left.history) :
    Unaccounted color m s left ↔ ¬ Settled color m s left := by
  refine ⟨Unaccounted.not_settled, fun unsettled => ?_⟩
  obtain ⟨later, history⟩ := grown
  rcases later.eq_nil_or_concat with rfl | ⟨later, last, rfl⟩
  · have history : left.history = s.history := by rw [← history, List.append_nil]
    by_cases board : left.board = s.board
    · exact .decided history fun outcome => unsettled (.inl ⟨board, history, outcome⟩)
    · exact .displaced history board
  · have history : left.history = s.history ++ later ++ [last] := by
      rw [← history, List.concat_eq_append, List.append_assoc]
    have grown := List.prefix_append s.history later
    exact .superseded history grown fun same => unsettled (.inr ⟨_, last, history, grown, same⟩)

theorem Overtaken.length_lt (overtaken : Overtaken color m s t) :
    s.history.length < t.history.length := by
  obtain ⟨earlier, record, later, last, history, grown, -⟩ := overtaken
  have := grown.length_le
  simp only [history, List.length_append, List.length_cons]
  omega

theorem Overtaken.not_settled (overtaken : Overtaken color m s t) : ¬ Settled color m s t := by
  rintro (unchanged | recorded)
  · have := overtaken.length_lt
    rw [unchanged.2.1] at this
    omega
  · obtain ⟨earlier, record, later, last, history, -, -, -, other⟩ := overtaken
    rw [← List.cons_append, ← List.append_assoc] at history
    exact other (recorded.last_eq history)

theorem settled_noted (notes : List Note) : Settled color m s (s.noted notes) := .inl ⟨rfl, rfl, rfl⟩

theorem not_overtaken_noted (notes : List Note) : ¬ Overtaken color m s (s.noted notes) :=
  fun overtaken => Nat.lt_irrefl _ overtaken.length_lt

/-- Once its move has been recorded, a submission is settled unless it has been overtaken. -/
theorem settled_iff_not_overtaken {earlier : List Record} {record : Record}
    (grown : s.history <+: earlier) (hcolor : record.color = color) (hmove : record.move = m)
    (recorded : earlier ++ [record] <+: t.history) :
    Settled color m s t ↔ ¬ Overtaken color m s t := by
  obtain ⟨later, history⟩ := recorded
  refine ⟨fun settled overtaken => overtaken.not_settled settled, fun first => ?_⟩
  rcases later.eq_nil_or_concat with rfl | ⟨later, last, rfl⟩
  · exact .inr ⟨earlier, record, by simpa using history.symm, grown, hcolor, hmove⟩
  · rw [List.concat_eq_append, List.append_assoc, List.singleton_append] at history
    by_cases same : last.color = color ∧ last.move = m
    · refine .inr ⟨earlier ++ record :: later, last, ?_, grown.trans (List.prefix_append _ _), same⟩
      rw [← history, List.append_assoc, List.cons_append]
    · exact absurd ⟨earlier, record, later, last, history.symm, grown, hcolor, hmove, same⟩ first

/-- When no listener fails, a submission that fails is settled unless the move was played and the turn
could not be passed on, or a listener has had a further move recorded. -/
theorem settled_iff_of_error (h : s.submit color m = (t, .error e))
    (heard : Heard (submitNested s.tickets) color m s) :
    Settled color m s t ↔
      ¬ Stranded (submitNested s.tickets) color m s ∧ ¬ Overtaken color m s t := by
  have course := course_submitWith (submitNested s.tickets) color m s
  rw [submit, submitNested] at h
  rw [h] at course
  generalize hreply : ((t, .error e) : Reply Record) = reply at course
  obtain rfl : t = reply.1 := congrArg Prod.fst hreply
  cases course with
  | refused check =>
    obtain ⟨notes, rfl⟩ := exists_noted_of_check check
    refine iff_of_true (settled_noted notes) ⟨?_, not_overtaken_noted notes⟩
    rintro ⟨piece, captured, left, hooked, accepted, -⟩
    obtain ⟨checked, played, kind, check', -, -⟩ := accepted.exists_stages
    rw [check'] at check
    cases check
  | @unplayable checked _ _ check play =>
    obtain ⟨notes, rfl⟩ := exists_noted_of_check check
    obtain rfl := playOn_error play
    refine iff_of_true (settled_noted notes) ⟨?_, not_overtaken_noted notes⟩
    rintro ⟨piece, captured, left, hooked, accepted, -⟩
    obtain ⟨checked, played, kind, check', play', -⟩ := accepted.exists_stages
    obtain rfl : s.noted notes = checked := congrArg Prod.fst (check.symm.trans check')
    rw [play'] at play
    cases play
  | stranded accepted pass =>
    -- what the hooks have left is all that the submission leaves
    have stuck := exists_passTurn_error_iff.1 ⟨_, _, pass⟩
    have grown := (accepted.continues (continues_submitNested s.tickets)).history
    obtain ⟨notes, rfl⟩ := passTurn_error pass
    constructor
    · intro settled
      exact ⟨fun stranded => (stranded.of_accepted accepted).2.not_settled settled,
        fun overtaken => overtaken.not_settled settled⟩
    · rintro ⟨unstranded, -⟩
      refine Classical.byContradiction fun unsettled => unstranded ?_
      exact ⟨_, _, _, _, accepted, stuck, (unaccounted_iff_not_settled grown).2 unsettled⟩
  | unheard accepted pass announce =>
    have told := heard _ _ _ _ _ _ _ accepted pass
    rw [announce] at told
    cases told
  | @recorded left passed _ piece captured hooked next terminal accepted pass announce =>
    have unstranded : ¬ Stranded (submitNested s.tickets) color m s := by
      intro stranded
      obtain ⟨_, _, pass'⟩ := exists_passTurn_error_iff.2 (stranded.of_accepted accepted).1
      cases pass.symm.trans pass'
    have grown := (accepted.continues (continues_submitNested s.tickets)).history
    have announced := (continues_announce (continues_submitNested s.tickets)
      ⟨color, m, piece.symbol, captured, next, terminal⟩ passed).history
    rw [announce] at announced
    obtain ⟨outcome, notes, rfl⟩ := exists_outcome_of_passTurn pass
    rw [settled_iff_not_overtaken grown rfl rfl announced]
    exact (and_iff_right unstranded).symm

/-- No piece of the game has a hook for its moves or captures. -/
def Unhooked (s : Session) : Prop :=
  s.hooks = none ∨
    ∀ entry ∈ s.ruleset.catalogue.entries, entry.2.afterMove = none ∧ entry.2.afterCapture = none

/-- Without such hooks nothing puts the board back between a move being played and its being recorded. -/
theorem Accepted.unaccounted (unhooked : s.Unhooked)
    (accepted : Accepted nested color m s piece captured left hooked) : Unaccounted color m s left := by
  obtain ⟨checked, played, kind, check, play, hooks⟩ := accepted.exists_stages
  obtain ⟨notes, rfl⟩ := exists_noted_of_check check
  obtain ⟨hlookup, after, hcell, hplay, rfl⟩ := playOn_ok play
  have entry := Catalogue.mem_entries_of_find? (Catalogue.lookup_eq_ok_iff.1 hlookup)
  have idle := hooks.symm.trans
    (runPieceHooks_of_unhooked (unhooked.imp id fun absent => absent (piece.symbol, kind) entry))
  obtain rfl : left = _ := congrArg Prod.fst idle
  refine .displaced rfl fun board => ?_
  -- the origin has been emptied
  obtain ⟨-, -, hne, -⟩ := Board.play_eq_ok_iff.1 hplay
  have emptied := Board.cell_of_play hplay hcell m.origin
  rw [if_neg hne, if_pos rfl] at emptied
  obtain rfl : after = s.board := board
  cases emptied.symm.trans hcell

/-- Without such hooks a submission is stranded whenever its move is played and the turn cannot be
passed on. -/
theorem stranded_iff_of_unhooked (unhooked : s.Unhooked) : Stranded nested color m s ↔
    ∃ piece captured left hooked,
      Accepted nested color m s piece captured left hooked ∧ left.Stuck color := by
  constructor
  · rintro ⟨piece, captured, left, hooked, accepted, stuck, -⟩
    exact ⟨piece, captured, left, hooked, accepted, stuck⟩
  · rintro ⟨piece, captured, left, hooked, accepted, stuck⟩
    exact ⟨piece, captured, left, hooked, accepted, stuck, accepted.unaccounted unhooked⟩

theorem heard_of_no_listeners (h : s.moveListeners = []) (levels : Nat) (color : Color) (m : Move) :
    Heard (submitNested levels) color m s := by
  intro piece captured left hooked passed next terminal accepted pass
  have silent : left.moveListeners = [] :=
    (accepted.continues (continues_submitNested levels)).moveListeners.trans h
  obtain ⟨outcome, notes, rfl⟩ := exists_outcome_of_passTurn pass
  rw [announce]
  simp only [silent, runScripts]
  split <;> rfl

end Session

/-! ### A move that is played but never recorded -/

/-- A rook against a piece whose further moves only a hook knows. -/
def haunted : Ruleset where
  name := "haunted"
  catalogue := {
    entries := [
      ("r", { name := "r", rules := [.mk {} [.heading .orthogonal] none] }),
      ("x", {
        name := "x"
        rules := [.mk { distance := .exact 1 } [.heading .orthogonal] none]
        extraMoves := some "em" })] }
  board := .ofRows [[some ⟨"x", .black, false⟩, none], [none, some ⟨"r", .white, false⟩]]
  colors := [.black, .white]
  colors_ne_nil := by decide
  colors_nodup := by decide
  symbol_mem := by decide

/-- The hook fails. It is not asked for the rook's moves, but it is for those of the next side. -/
def hauntedOpening : Session where
  ruleset := haunted
  board := haunted.board
  hooks := some { extraMoves := [("em", .raise (.failure "lost"))] }

theorem submit_haunted : ∃ t e, hauntedOpening.submit .white ⟨⟨1, 1⟩, ⟨1, 0⟩⟩ = (t, .error e) ∧
    t.board.cell ⟨1, 0⟩ = some ⟨"r", .white, true⟩ ∧ t.history = [] := by
  have failed : (hauntedOpening.submit .white ⟨⟨1, 1⟩, ⟨1, 0⟩⟩).2.isOk = false := by decide +kernel
  have played : (hauntedOpening.submit .white ⟨⟨1, 1⟩, ⟨1, 0⟩⟩).1.board.cell ⟨1, 0⟩ =
      some ⟨"r", .white, true⟩ := by decide +kernel
  have unrecorded : (hauntedOpening.submit .white ⟨⟨1, 1⟩, ⟨1, 0⟩⟩).1.history = [] := by decide +kernel
  generalize hauntedOpening.submit .white ⟨⟨1, 1⟩, ⟨1, 0⟩⟩ = reply at failed played unrecorded
  obtain ⟨t, e | record⟩ := reply
  · exact ⟨t, e, rfl, played, unrecorded⟩
  · cases failed

/-- No listener fails, because there is none, and still the submission fails with a board that the
history does not account for. -/
theorem not_settled_haunted : ∃ t e, hauntedOpening.moveListeners = [] ∧
    hauntedOpening.submit .white ⟨⟨1, 1⟩, ⟨1, 0⟩⟩ = (t, .error e) ∧
    ¬ Session.Settled .white ⟨⟨1, 1⟩, ⟨1, 0⟩⟩ hauntedOpening t := by
  obtain ⟨t, e, failed, played, history⟩ := submit_haunted
  refine ⟨t, e, rfl, failed, ?_⟩
  rintro (unchanged | ⟨earlier, record, recorded, -⟩)
  · rw [unchanged.1] at played
    cases played
  · rw [history] at recorded
    simp at recorded

theorem settled_iff_of_error_haunted : ∃ t e,
    hauntedOpening.submit .white ⟨⟨1, 1⟩, ⟨1, 0⟩⟩ = (t, .error e) ∧
    Session.Heard (Session.submitNested hauntedOpening.tickets) .white ⟨⟨1, 1⟩, ⟨1, 0⟩⟩ hauntedOpening ∧
    (Session.Settled .white ⟨⟨1, 1⟩, ⟨1, 0⟩⟩ hauntedOpening t ↔
      ¬ Session.Stranded (Session.submitNested hauntedOpening.tickets) .white ⟨⟨1, 1⟩, ⟨1, 0⟩⟩
        hauntedOpening ∧
      ¬ Session.Overtaken .white ⟨⟨1, 1⟩, ⟨1, 0⟩⟩ hauntedOpening t) := by
  obtain ⟨t, e, failed, -, -⟩ := submit_haunted
  have heard := Session.heard_of_no_listeners (s := hauntedOpening) rfl hauntedOpening.tickets .white
    ⟨⟨1, 1⟩, ⟨1, 0⟩⟩
  exact ⟨t, e, failed, heard, Session.settled_iff_of_error failed heard⟩

end VariantChess
