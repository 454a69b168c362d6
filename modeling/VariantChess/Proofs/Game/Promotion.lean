import VariantChess.Proofs.Game.Plays

/-!
# Promotion

In a game with the standard hooks, whose entries name no hook but the one that promotes, that hook runs
right behind the move and nothing else runs in between. So a piece that is promoted never stands on its
farthest row when anybody looks at the board: neither the search for the moves of the next side, nor the
listeners, nor whoever submits the next move, inside or outside of a listener. `Turns` is what a move
does to the board, the promotion included, and `Promotions` is a whole run of such moves beside the log
and the history. That nobody waits for promotion is kept by every turn (`AllPromoted.of_turns`) and by
nothing less: between the move and the hook it does not hold.
-/

namespace VariantChess

/-- The row on which a piece of the side that goes forward arrives in the end. -/
def Board.farthest (b : Board) (color : Color) : Int := if color = .white then 0 else b.height - 1

namespace Catalogue

variable {c : Catalogue} {before after : Board} {color : Color} {m : Move} {piece q : Piece} {s : Square}

/-- The pieces of the symbol are promoted: their entry names the hook for it. -/
def Promotes (c : Catalogue) (symbol : String) : Prop :=
  ∃ kind, c.find? symbol = some kind ∧ kind.afterMove = some "promote"

instance decidablePromotes (c : Catalogue) (symbol : String) : Decidable (c.Promotes symbol) :=
  decidable_of_iff ((c.find? symbol).any fun kind => kind.afterMove = some "promote")
    (by simp [Promotes, Option.any_eq_true])

/-- What a piece has become when it has been moved to the square. -/
def arrived (c : Catalogue) (b : Board) (piece : Piece) (d : Square) : Piece :=
  if c.Promotes piece.symbol ∧ d.y = b.farthest piece.color then ⟨"q", piece.color, true⟩
  else { piece with hasMoved := true }

/-- The board with a piece that has just been moved to the square promoted, if it is to be. -/
def promoted (c : Catalogue) (b : Board) (piece : Piece) (d : Square) : Board :=
  if c.Promotes piece.symbol ∧ d.y = b.farthest piece.color then b.put d (some ⟨"q", piece.color, true⟩)
  else b

/-- No piece that is promoted on its farthest row stands there. -/
def AllPromoted (c : Catalogue) (b : Board) : Prop :=
  ∀ s piece, b.cell s = some piece → c.Promotes piece.symbol → s.y ≠ b.farthest piece.color

/-- The move is legal for the side and leads from one board to the other: it empties its origin, puts the
moved piece or the queen on its destination, and changes nothing else. -/
structure Turns (c : Catalogue) (before : Board) (color : Color) (m : Move) (after : Board) : Prop where
  legal : ∃ moves, legalMoves c before color none = .of (.ok moves) ∧ m ∈ moves
  width : after.width = before.width
  height : after.height = before.height
  mover : ∃ piece, before.cell m.origin = some piece ∧ piece.color = color ∧
    after.cell m.destination = some (c.arrived before piece m.destination)
  origin : after.cell m.origin = none
  elsewhere : ∀ s, s ≠ m.origin → s ≠ m.destination → after.cell s = before.cell s

/-- What stands on a square behind the move is what has been moved there, or it stood there before. -/
theorem Turns.cases (turns : c.Turns before color m after) (h : after.cell s = some q) :
    (s = m.destination ∧ ∃ piece, before.cell m.origin = some piece ∧
      q = c.arrived before piece m.destination) ∨ before.cell s = some q := by
  obtain ⟨piece, hp, -, hd⟩ := turns.mover
  by_cases atDestination : s = m.destination
  · subst atDestination
    rw [hd] at h
    exact .inl ⟨rfl, piece, hp, (Option.some.inj h).symm⟩
  · by_cases atOrigin : s = m.origin
    · subst atOrigin
      rw [turns.origin] at h
      cases h
    · rw [turns.elsewhere s atOrigin atDestination] at h
      exact .inr h

theorem symbol_arrived (c : Catalogue) (b : Board) (piece : Piece) (d : Square) :
    (c.arrived b piece d).symbol = "q" ∨ (c.arrived b piece d).symbol = piece.symbol := by
  rw [arrived]
  split
  · exact .inl rfl
  · exact .inr rfl

theorem Covers.of_turns (covers : c.Covers before) (queen : "q" ∈ c.symbols)
    (turns : c.Turns before color m after) : c.Covers after := by
  rintro ⟨s, q⟩ hq
  show q.symbol ∈ c.symbols
  obtain ⟨-, piece, hp, rfl⟩ | still := turns.cases (Board.mem_pieces.1 hq)
  · obtain symbol | symbol := c.symbol_arrived before piece m.destination
    · rwa [symbol]
    · rw [symbol]
      exact covers.symbol_mem hp
  · exact covers.symbol_mem still

theorem AllPromoted.of_turns (promoted : c.AllPromoted before)
    (queen : ∀ kind, c.find? "q" = some kind → kind.afterMove = none)
    (turns : c.Turns before color m after) : c.AllPromoted after := by
  intro s q hq promotes
  have farthest : after.farthest q.color = before.farthest q.color := by
    rw [Board.farthest, Board.farthest, turns.height]
  rw [farthest]
  obtain ⟨rfl, piece, hp, rfl⟩ | still := turns.cases hq
  · rw [arrived] at promotes ⊢
    split at promotes
    · obtain ⟨kind, found, hook⟩ := promotes
      rw [queen kind found] at hook
      cases hook
    · rename_i unpromoted
      rw [if_neg unpromoted]
      exact fun last => unpromoted ⟨promotes, last⟩
  · exact promoted s q still promotes

end Catalogue

/-! ### Runs of turns -/

/-- From the starting board these moves have led to this board, and these records tell of them: all moves
of sides in the turn order have one, which says how the next side stands once the piece has been promoted.
Behind a move of any other side nobody is next, and it is not recorded. -/
inductive Promotions (r : Ruleset) (start : Board) : List (Color × Move) → List Record → Board → Prop
  | nil : Promotions r start [] [] start
  | recorded {plays : List (Color × Move)} {history : List Record} {before after : Board} {record : Record}
      (past : Promotions r start plays history before)
      (turns : r.catalogue.Turns before record.color record.move after)
      (next : r.nextColor record.color = .ok record.nextColor)
      (state : (terminalState r.catalogue after record.nextColor none).result = .ok record.nextState) :
      Promotions r start (plays ++ [record.play]) (history ++ [record]) after
  | unrecorded {plays : List (Color × Move)} {history : List Record} {before after : Board} {color : Color}
      {m : Move} (past : Promotions r start plays history before)
      (turns : r.catalogue.Turns before color m after) (stranger : color ∉ r.colors) :
      Promotions r start (plays ++ [(color, m)]) history after

/-- The entries name no hook but the one that promotes, and queens do not name it. -/
structure Ruleset.OnlyPromotes (r : Ruleset) : Prop where
  compiled : r.catalogue.Compiled
  afterMove : ∀ e ∈ r.catalogue.entries, e.2.afterMove = none ∨ e.2.afterMove = some "promote"
  afterCapture : ∀ e ∈ r.catalogue.entries, e.2.afterCapture = none
  extraMoves : ∀ e ∈ r.catalogue.entries, e.2.extraMoves = none
  queen : ∃ kind, r.catalogue.find? "q" = some kind ∧ kind.afterMove = none

namespace Promotions

variable {r : Ruleset} {start board : Board} {plays : List (Color × Move)} {history : List Record}

theorem covers (promotions : Promotions r start plays history board) (only : r.OnlyPromotes)
    (covers : r.catalogue.Covers start) : r.catalogue.Covers board := by
  obtain ⟨kind, found, -⟩ := only.queen
  have queen : "q" ∈ r.catalogue.symbols := Catalogue.mem_symbols_iff.2 ⟨kind, found⟩
  induction promotions with
  | nil => exact covers
  | recorded _ turns _ _ ih => exact ih.of_turns queen turns
  | unrecorded _ turns _ ih => exact ih.of_turns queen turns

theorem allPromoted (promotions : Promotions r start plays history board) (only : r.OnlyPromotes)
    (promoted : r.catalogue.AllPromoted start) : r.catalogue.AllPromoted board := by
  have queen : ∀ kind, r.catalogue.find? "q" = some kind → kind.afterMove = none := by
    obtain ⟨kind, found, unhooked⟩ := only.queen
    intro kind' found'
    rw [found] at found'
    cases found'
    exact unhooked
  induction promotions with
  | nil => exact promoted
  | recorded _ turns _ _ ih => exact ih.of_turns queen turns
  | unrecorded _ turns _ ih => exact ih.of_turns queen turns

end Promotions

namespace Session

variable {start s t left passed : Session} {nested : Submission} {color next : Color} {m : Move}
  {piece : Piece} {kind : PieceKind} {captured : Bool} {hooked : Except Error Unit}
  {terminal : TerminalState} {e : Error} {symbol : String}

/-! ### The hook -/

theorem promote_eq (arrives : s.board.cell m.destination = some piece) (symbol : String) :
    s.promote symbol m = ({ s with
      board := if m.destination.y = s.board.farthest piece.color then
        s.board.put m.destination (some ⟨symbol, piece.color, true⟩) else s.board }, .ok ()) := by
  have farthest : (if piece.color.forward < 0 then 0 else (s.board.height : Int) - 1) =
      s.board.farthest piece.color := by
    rw [Board.farthest]
    cases piece.color <;> rfl
  have inside := Board.contains_of_cell arrives
  rw [promote, Board.get, if_pos inside, arrives]
  dsimp only
  rw [farthest]
  split
  · rw [write, Board.set, if_pos inside]
  · rfl

/-- All that the standard hooks do behind a move is to promote. -/
theorem runPieceHooks_eq (only : s.ruleset.OnlyPromotes) (given : s.hooks = some .standard)
    (arrives : s.board.cell m.destination = some piece)
    (found : s.ruleset.catalogue.find? piece.symbol = some kind) (nested : Submission) (captured : Bool) :
    s.runPieceHooks nested kind m captured =
      ({ s with board := s.ruleset.catalogue.promoted s.board piece m.destination }, .ok ()) := by
  have entry := Catalogue.mem_entries_of_find? found
  have uncapturing : kind.afterCapture = none := only.afterCapture _ entry
  have named : s.ruleset.catalogue.Promotes piece.symbol ↔ kind.afterMove = some "promote" := by
    simp [Catalogue.Promotes, found]
  have ran := promote_eq arrives "q"
  rw [runPieceHooks, Catalogue.promoted]
  simp only [uncapturing, named]
  cases hook : kind.afterMove with
  | none =>
    simp only [given, runHook?, reduceCtorEq, false_and, ↓reduceIte, ite_self]
    rw [← given]
  | some id =>
    obtain rfl : id = "promote" := by
      rcases only.afterMove _ entry with unhooked | promotes
      · cases hook.symm.trans unhooked
      · exact Option.some.inj (hook.symm.trans promotes)
    have script : Hooks.standard.script? .afterMove "promote" = some [.promote "q"] := rfl
    simp [given, runHook?, runHook, callHook, script, runScript, perform, ran]

end Session

/-- A move and the promotion behind it are a turn. -/
theorem Catalogue.turns_of_play {c : Catalogue} {before after : Board} {color : Color} {m : Move}
    {captured : Bool} {piece : Piece}
    (legal : ∃ moves, legalMoves c before color none = .of (.ok moves) ∧ m ∈ moves)
    (mover : before.cell m.origin = some piece) (side : piece.color = color)
    (play : before.play m = .ok (after, captured)) :
    c.Turns before color m (c.promoted after { piece with hasMoved := true } m.destination) := by
  obtain ⟨-, inside, away, -⟩ := Board.play_eq_ok_iff.1 play
  have width := Board.width_of_play play
  have height := Board.height_of_play play
  have farthest : after.farthest piece.color = before.farthest piece.color := by
    rw [Board.farthest, Board.farthest, height]
  have cell := Board.cell_of_play play mover
  simp only [promoted, farthest]
  by_cases last : c.Promotes piece.symbol ∧ m.destination.y = before.farthest piece.color
  · have inside : after.contains m.destination := by
      refine Board.contains_of_cell (p := { piece with hasMoved := true }) ?_
      rw [cell, if_pos rfl]
    rw [if_pos last]
    refine ⟨legal, width, by rw [Board.height_put, height], ⟨piece, mover, side, ?_⟩, ?_, ?_⟩
    · rw [Board.cell_put_self inside, arrived, if_pos last]
    · rw [Board.cell_put_of_ne away, cell, if_neg away, if_pos rfl]
    · intro s hso hsd
      rw [Board.cell_put_of_ne hsd, cell, if_neg hsd, if_neg hso]
  · rw [if_neg last]
    refine ⟨legal, width, height, ⟨piece, mover, side, ?_⟩, ?_, ?_⟩
    · rw [cell, if_pos rfl, arrived, if_neg last]
    · rw [cell, if_neg away, if_pos rfl]
    · intro s hso hsd
      rw [cell, if_neg hsd, if_neg hso]

namespace Session

variable {start s t left passed : Session} {nested : Submission} {color next : Color} {m : Move}
  {piece : Piece} {captured : Bool} {hooked : Except Error Unit} {terminal : TerminalState} {e : Error}

/-! ### The game -/

/-- A game with the standard hooks that has not begun. Only hooks may edit the board, so the listeners
leave it to the moves that they submit. -/
structure Standard (s : Session) : Prop where
  only : s.ruleset.OnlyPromotes
  hooks : s.hooks = some .standard
  listeners : ∀ script ∈ s.moveListeners, ∀ action ∈ script, action.LeavesBoard
  covers : s.ruleset.catalogue.Covers s.board
  promoted : s.ruleset.catalogue.AllPromoted s.board
  fresh : s.Fresh

/-- A later session of the game, to whose board the moves of its log have led. -/
structure Led (start s : Session) : Prop where
  steps : start.Steps s
  promotions : Promotions start.ruleset start.board s.plays s.history s.board

theorem Led.of_still (led : start.Led s) (steps : s.Steps t) (still : s.Still t) : start.Led t := by
  refine ⟨led.steps.trans steps, ?_⟩
  rw [still.plays, still.history, still.board]
  exact led.promotions

namespace Standard

variable (standard : start.Standard)
include standard

theorem led : start.Led start := by
  refine ⟨.refl, ?_⟩
  have unplayed : start.plays = [] := by rw [plays, standard.fresh.notes]; rfl
  rw [unplayed, standard.fresh.history]
  exact .nil

theorem regular (steps : start.Steps s) (covers : start.ruleset.catalogue.Covers s.board) : s.Regular := by
  rw [← steps.follows.ruleset] at covers
  refine ⟨?_, covers, .inr ?_⟩
  · rw [steps.follows.ruleset]
    exact standard.only.compiled
  · rw [steps.follows.ruleset]
    exact standard.only.extraMoves

theorem regular_of_led (led : start.Led s) : s.Regular :=
  standard.regular led.steps (led.promotions.covers standard.only standard.covers)

/-- When a move has been accepted, it is played and the piece promoted, and nothing else is done. -/
theorem turns_of_accepted (led : start.Led s)
    (accepted : Accepted nested color m s piece captured left hooked) :
    start.ruleset.catalogue.Turns s.board color m left.board ∧ left.history = s.history ∧
      left.plays = s.plays ++ [(color, m)] ∧ left.outcome = .inProgress := by
  have regular := standard.regular_of_led led
  have ruleset := led.steps.follows.ruleset
  have given : s.hooks = some .standard := led.steps.follows.hooks.trans standard.hooks
  have only : s.ruleset.OnlyPromotes := ruleset ▸ standard.only
  obtain ⟨checked, played, kind, check, play, hooks⟩ := accepted.exists_stages
  obtain ⟨_, _, _, _, _, -, mover, side, -⟩ := regular.exists_playOn check
  obtain ⟨rfl, running, legal⟩ := regular.check_ok check
  obtain ⟨lookup, after, mover', hplay, rfl⟩ := playOn_ok play
  rw [mover'] at mover
  cases mover
  -- the hook finds the piece on its destination, marked as moved
  have arrives : after.cell m.destination = some { piece with hasMoved := true } := by
    rw [Board.cell_of_play hplay mover', if_pos rfl]
  have promoted := runPieceHooks_eq (s := { checked with board := after }.logged (.played color m captured))
    only given arrives (Catalogue.lookup_eq_ok_iff.1 lookup) nested captured
  obtain rfl : _ = left := congrArg Prod.fst (promoted.symm.trans hooks)
  refine ⟨?_, rfl, plays_noted, running⟩
  rw [← ruleset]
  exact Catalogue.turns_of_play legal mover' side hplay

section
variable (inside : ∀ color m (t : Session), t.Steps (nested color m t).1)
include inside

theorem regular_of_accepted (led : start.Led s)
    (accepted : Accepted nested color m s piece captured left hooked) : left.Regular := by
  obtain ⟨turns, -⟩ := standard.turns_of_accepted led accepted
  obtain ⟨kind, found, -⟩ := standard.only.queen
  have queen : "q" ∈ start.ruleset.catalogue.symbols := Catalogue.mem_symbols_iff.2 ⟨kind, found⟩
  have covers := led.promotions.covers standard.only standard.covers
  exact standard.regular (led.steps.trans (accepted.steps inside)) (covers.of_turns queen turns)

/-- A move whose turn cannot be passed on is one of a side that is not in the turn order. -/
theorem led_of_passTurn_error (led : start.Led s)
    (accepted : Accepted nested color m s piece captured left hooked)
    (pass : left.passTurn color = (t, .error e)) : start.Led t := by
  obtain ⟨turns, history, log, running⟩ := standard.turns_of_accepted led accepted
  have regular := standard.regular_of_accepted inside led accepted
  have steps : start.Steps left := led.steps.trans (accepted.steps inside)
  have still := still_of_passTurn pass
  have stranger : color ∉ start.ruleset.colors := by
    intro hcolor
    rw [← steps.follows.ruleset] at hcolor
    obtain ⟨next, terminal, notes, pass', -⟩ := regular.exists_passTurn running hcolor
    cases pass.symm.trans pass'
  refine ⟨steps.trans (steps_of_passTurn pass), ?_⟩
  rw [still.plays, still.history, still.board, log, history]
  exact led.promotions.unrecorded turns stranger

/-- The record of any other move says how the next side stands behind the promotion. -/
theorem led_recording (led : start.Led s)
    (accepted : Accepted nested color m s piece captured left hooked)
    (pass : left.passTurn color = (passed, .ok (next, terminal))) :
    start.Led (passed.recording ⟨color, m, piece.symbol, captured, next, terminal⟩) := by
  obtain ⟨turns, history, log, running⟩ := standard.turns_of_accepted led accepted
  have regular := standard.regular_of_accepted inside led accepted
  have steps : start.Steps left := led.steps.trans (accepted.steps inside)
  have still := still_of_passTurn pass
  obtain ⟨hnext, ⟨ended, -⟩ | ⟨-, state, -⟩⟩ := passTurn_ok pass
  · rw [running] at ended
    cases ended
  · rw [regular.terminalState_eq] at state
    rw [steps.follows.ruleset] at hnext state
    refine ⟨(steps.trans (steps_of_passTurn pass)).tail (.record _), ?_⟩
    show Promotions _ _ passed.plays (passed.history ++ [_]) passed.board
    rw [still.plays, still.history, still.board, log, history]
    exact @Promotions.recorded _ _ _ _ _ _ ⟨color, m, piece.symbol, captured, next, terminal⟩
      led.promotions turns hnext state

end

/-! ### Whole runs -/

/-- The hooks submit nothing, so that all that is played inside a submission is played by listeners. -/
theorem enduring : Enduring start.Led where
  still led steps still := led.of_still steps still
  listeners led := by
    rw [led.steps.follows.moveListeners]
    exact standard.listeners
  stranded led accepted pass := standard.led_of_passTurn_error (steps_submitNested _) led accepted pass
  recorded led accepted pass := standard.led_recording (steps_submitNested _) led accepted pass

/-- A submission is refused and changes nothing, or its move is played before any other. -/
theorem submit_cases (led : start.Led s) (color : Color) (m : Move) :
    (∃ fault, s.submit color m = (s, .error (.move fault (some m)))) ∨
      (s.check color m).2 = .ok () ∧ s.plays ++ [(color, m)] <+: (s.submit color m).1.plays := by
  have regular := standard.regular_of_led led
  have steps := steps_submitNested s.tickets
  have played {piece : Piece} {captured : Bool} {left t : Session} {hooked : Except Error Unit}
      (accepted : Accepted (submitNested s.tickets) color m s piece captured left hooked)
      (behind : left.Steps t) :
      (s.check color m).2 = .ok () ∧ s.plays ++ [(color, m)] <+: t.plays := by
    obtain ⟨checked, -, -, check, -, -⟩ := accepted.exists_stages
    obtain ⟨-, -, log, -⟩ := standard.turns_of_accepted led accepted
    rw [check, ← log]
    exact ⟨rfl, behind.follows.notes.filterMap _⟩
  have course := course_submitWith (submitNested s.tickets) color m s
  rw [submit, submitNested]
  generalize submitWith (submitNested s.tickets) color m s = reply at course
  cases course with
  | refused check =>
    obtain ⟨rfl, fault, rfl⟩ := regular.check_error check
    exact .inl ⟨fault, rfl⟩
  | unplayable check play =>
    obtain ⟨_, _, _, _, _, play', -⟩ := regular.exists_playOn check
    cases play.symm.trans play'
  | stranded accepted pass => exact .inr (played accepted (steps_of_passTurn pass))
  | unheard accepted pass announce =>
    exact .inr (played accepted ((steps_of_passTurn pass).trans (steps_of_announce steps announce)))
  | recorded accepted pass announce =>
    exact .inr (played accepted ((steps_of_passTurn pass).trans (steps_of_announce steps announce)))

end Standard

/-- Whatever is submitted in a game with the standard hooks that name promotion only, from outside or by
listeners: the moves that are played are turns, the records tell how the next side stands behind them, and
no piece waits for its promotion. What is submitted next is refused and changes nothing, or it is the next
turn. -/
theorem allPromoted_after (standard : start.Standard) (calls : List Call) :
    Promotions start.ruleset start.board (start.after calls).plays (start.after calls).history
      (start.after calls).board ∧
    start.ruleset.catalogue.AllPromoted (start.after calls).board ∧
    ∀ color m,
      (∃ fault, (start.after calls).submit color m =
        (start.after calls, .error (.move fault (some m)))) ∨
      ((start.after calls).check color m).2 = .ok () ∧
        (start.after calls).plays ++ [(color, m)] <+: ((start.after calls).submit color m).1.plays := by
  have led := standard.enduring.after calls standard.led
  exact ⟨led.promotions, led.promotions.allPromoted standard.only standard.promoted,
    standard.submit_cases led⟩

end Session

/-- Kings and pawns, who become queens. Yellow has a pawn too, but no turn. -/
def coronation : Ruleset :=
  { duel with
    name := "coronation"
    catalogue := {
      entries := [
        ("k", {
          name := "king"
          rules := [.mk { distance := .exact 1 } [.heading .all] none]
          royal := true }),
        ("p", {
          name := "pawn"
          rules := [.mk { distance := .exact 1 } [.heading .forward] none]
          afterMove := some "promote" }),
        ("q", { name := "queen", rules := [.mk {} [.heading .all] none] })] }
    board := .ofRows [
      [some ⟨"k", .black, false⟩, none, none, none, none, none],
      [none, none, some ⟨"p", .white, false⟩, some ⟨"p", .yellow, false⟩, none, some ⟨"p", .black, false⟩],
      [some ⟨"k", .white, false⟩, none, some ⟨"p", .white, false⟩, none, none, none]]
    symbol_mem := by decide }

/-- A listener answers the first record with the pawn of black. -/
def coronationOpening : Session where
  ruleset := coronation
  hooks := some .standard
  moveListeners := [[.submit 0 .black ⟨⟨5, 1⟩, ⟨5, 2⟩⟩]]
  board := coronation.board

theorem onlyPromotes_coronation : coronation.OnlyPromotes where
  compiled := by
    refine List.forall_mem_cons.2 ⟨⟨"1*", ?_⟩, List.forall_mem_cons.2 ⟨⟨"1>", ?_⟩,
      List.forall_mem_singleton.2 ⟨"n*", ?_⟩⟩⟩
    · rfl
    · rfl
    · rfl
  afterMove := by decide
  afterCapture := by decide
  extraMoves := by decide
  queen := ⟨_, rfl, rfl⟩

/-- The pawn of yellow becomes a queen without a record, that of black inside the listener, and that of
white gives mate. -/
theorem allPromoted_after_coronation :
    let calls : List Call := [.submit .yellow ⟨⟨3, 1⟩, ⟨3, 2⟩⟩, .submit .white ⟨⟨0, 2⟩, ⟨1, 2⟩⟩,
      .submit .white ⟨⟨2, 1⟩, ⟨2, 0⟩⟩]
    let s := coronationOpening.after calls
    coronationOpening.Standard ∧
    s.history.map (fun record => (record.color, record.nextState)) =
      [(.white, .playable), (.black, .playable), (.white, .checkmated)] ∧
    s.board.squaresWhere (fun piece => piece.symbol = "q") = [⟨2, 0⟩, ⟨3, 2⟩, ⟨5, 2⟩] ∧
    Promotions coronation coronation.board s.plays s.history s.board ∧
    coronation.catalogue.AllPromoted s.board ∧
    ∀ color m, (∃ fault, s.submit color m = (s, .error (.move fault (some m)))) ∨
      (s.check color m).2 = .ok () ∧ s.plays ++ [(color, m)] <+: (s.submit color m).1.plays := by
  intro calls s
  have unpromoted : ∀ p ∈ coronation.board.pieces, coronation.catalogue.Promotes p.2.symbol →
      p.1.y ≠ coronation.board.farthest p.2.color := by decide
  have standard : coronationOpening.Standard := by
    refine ⟨onlyPromotes_coronation, rfl, ?_, coronation.symbol_mem, ?_, ⟨rfl, rfl, rfl⟩⟩
    · simp [coronationOpening, Action.LeavesBoard]
    · exact fun square piece hp => unpromoted (square, piece) (Board.mem_pieces.2 hp)
  have recorded : s.history.map (fun record => (record.color, record.nextState)) =
      [(.white, .playable), (.black, .playable), (.white, .checkmated)] := by decide +kernel
  have queens : s.board.squaresWhere (fun piece => piece.symbol = "q") =
      [⟨2, 0⟩, ⟨3, 2⟩, ⟨5, 2⟩] := by decide +kernel
  exact ⟨standard, recorded, queens, Session.allPromoted_after standard calls⟩

end VariantChess
