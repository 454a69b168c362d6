import VariantChess.Error

/-!
# Journals

What happens on the way to a result is written down as notes: log events, and what scripts and
listeners say. A `Report` is a result together with its notes, which stay when the result is an error.
-/

namespace VariantChess

inductive TerminalState where
  /-- Able to play. -/
  | playable
  | checkmated
  | stalemated
deriving DecidableEq, Repr

/-- How a game stands. -/
inductive Outcome where
  | inProgress
  | win (winner : Color)
  | draw
deriving DecidableEq, Repr

namespace Outcome

def isOver : Outcome → Bool
  | inProgress => false
  | _ => true

def winner? : Outcome → Option Color
  | win color => some color
  | _ => none

end Outcome

/-! ### Events -/

/-- What the library logs. -/
inductive Event where
  | compiled (text : String) (rules : Nat)
  | rejected (text : String)
  | extraMovesFailed (id : String) (origin : Square) (reason : String)
  | checkmated (color : Color)
  | stalemated (color : Color)
  | played (color : Color) (move : Move) (captured : Bool)
  | drawn
  | won (color : Color)
  | hookFailed (id : String) (move : Move) (reason : String)
  | loadedRuleset (name path : String)
  | loadedSettings (path : String)

inductive Severity where
  | debug
  | info
  | warning
deriving DecidableEq, Repr

namespace Event

def severity : Event → Severity
  | compiled .. | rejected .. | checkmated .. | stalemated .. | loadedSettings .. => .debug
  | played .. | drawn | won .. | loadedRuleset .. => .info
  | extraMovesFailed .. | hookFailed .. => .warning

def message : Event → String
  | compiled text rules => s!"Compiled {Text.quote text} into {rules} rule(s)"
  | rejected text => s!"Rejected movement notation {Text.quote text}"
  | extraMovesFailed id origin reason =>
    s!"Extension hook {Text.quote id} failed for {origin}: {reason}"
  | checkmated color => s!"{color} is checkmated"
  | stalemated color => s!"{color} is stalemated"
  | played color move captured => s!"{color} plays {move}" ++ if captured then " (capture)" else ""
  | drawn => "Game drawn"
  | won color => s!"{color} wins"
  | hookFailed id move reason => s!"Hook {Text.quote id} failed after {move}: {reason}"
  | loadedRuleset name path => s!"Loaded ruleset {Text.quote name} from {path}"
  | loadedSettings path => s!"Loaded settings from {path}"

end Event

/-! ### Notes -/

inductive Note where
  | event (event : Event)
  /-- An extra-moves script was asked about a square. -/
  | asked (origin : Square)
  /-- A script or listener said something about a move and the board it saw. -/
  | said (tag : String) (move : Move) (board : Board)
  /-- A listener heard that the game is over. -/
  | over (tag : String) (outcome : Outcome)

/-- A result and the notes left on the way. -/
structure Report (α : Type) where
  result : Except Error α
  notes : List Note := []

namespace Report

variable {α β : Type}

instance : Monad Report where
  pure a := ⟨.ok a, []⟩
  bind x f :=
    match x.result with
    | .error e => ⟨.error e, x.notes⟩
    | .ok a =>
      let y := f a
      ⟨y.result, x.notes ++ y.notes⟩

/-- A result without notes. -/
def of (result : Except Error α) : Report α := ⟨result, []⟩

/-- A failure without notes. -/
def fail (e : Error) : Report α := ⟨.error e, []⟩

/-- Leaves a log event. -/
def log (event : Event) : Report Unit := ⟨.ok (), [.event event]⟩

end Report

/-- Compiles a piece and logs whether that worked. -/
def Movement.compileLogged (text : String) : Report (List Movement.Rule) :=
  match Movement.compilePiece text with
  | .ok rules => ⟨.ok rules, [.event (.compiled text rules.length)]⟩
  | .error (.malformed fault shown offset) =>
    ⟨.error (.movement fault shown offset), if text.isEmpty then [] else [.event (.rejected text)]⟩
  | .error (.number fault) => .fail (.number fault)

end VariantChess
