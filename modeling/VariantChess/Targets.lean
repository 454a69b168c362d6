import VariantChess.Catalogue.Basic
import VariantChess.Fallible
import VariantChess.Walk

/-!
# Targets of a rule

From a square, a rule reaches what its own walks reach and what its groups reach, the groups being run
from that square as if the piece stood there. Every square reached other than the origin is a target,
and the rule that goes on is run from every square reached. The heading of a leap fails with another
distance, which only a rule that no notation spells can have.
-/

namespace VariantChess

namespace Movement

mutual

/-- The targets, relative to `origin`, of a rule that is run from `start`. -/
def Rule.targets (b : Board) (piece : Piece) (origin start : Square) :
    Rule → Except Error (List Square)
  | .mk leg directions next =>
    if leg.initial && piece.hasMoved then .ok []
    else
      match (Rule.mk leg directions next).steps? piece.color with
      | none => .error .noLeap
      | some steps =>
        match groupTargets b piece start directions with
        | .error e => .error e
        | .ok inner =>
          gather
            (fun s => (nextTargets b piece origin s next).map fun further =>
              if s = origin then further else s :: further)
            (steps.flatMap (leg.reach b piece.color start) ++ inner)
termination_by structural rule => rule

/-- The targets of all groups among the directions, each relative to `start`. -/
def groupTargets (b : Board) (piece : Piece) (start : Square) :
    List Direction → Except Error (List Square)
  | [] => .ok []
  | direction :: directions =>
    match directionTargets b piece start direction with
    | .error e => .error e
    | .ok targets => (groupTargets b piece start directions).map (targets ++ ·)
termination_by structural directions => directions

def directionTargets (b : Board) (piece : Piece) (start : Square) :
    Direction → Except Error (List Square)
  | .heading _ => .ok []
  | .group rule => rule.targets b piece start start
termination_by structural direction => direction

/-- The targets of the rule that goes on from `start`, if there is one. -/
def nextTargets (b : Board) (piece : Piece) (origin start : Square) :
    Option Rule → Except Error (List Square)
  | none => .ok []
  | some rule => rule.targets b piece origin start
termination_by structural next => next

end

end Movement

namespace PieceKind

/-- The targets of a piece of this kind, rule by rule. -/
def targets (kind : PieceKind) (b : Board) (piece : Piece) (origin : Square) :
    Except Error (List Square) :=
  gather (fun rule => rule.targets b piece origin origin) kind.rules

/-- The moves of a piece of this kind, rule by rule. -/
def moves (kind : PieceKind) (b : Board) (piece : Piece) (origin : Square) :
    Except Error (List Move) :=
  (kind.targets b piece origin).map fun targets => targets.map (Move.mk origin)

end PieceKind

end VariantChess
