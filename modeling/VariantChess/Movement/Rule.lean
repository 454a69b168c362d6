import VariantChess.Movement.Heading

/-!
# Movement rules

A rule is a tree of legs. A leg says how far a walk goes and what it may do; the rule adds the
directions of the walk, each a heading or a whole rule of its own (a group) that is run from the same
square, and optionally a rule that goes on from every square reached.
-/

namespace VariantChess.Movement

/-- How the walks of a rule go. -/
structure Leg where
  distance : Distance := .any
  /-- A second distance that is accepted as well: a leap that may be repeated. -/
  ride : Option Distance := none
  /-- Only for a piece that has not moved. -/
  initial : Bool := false
  /-- Destinations must hold an enemy. -/
  captureOnly : Bool := false
  /-- Destinations must be empty. -/
  noCapture : Bool := false
  /-- Pieces in the way never stop the walk. -/
  leaper : Bool := false
  /-- The first piece in the way is leapt over, and only captures count behind it. -/
  locust : Bool := false
deriving DecidableEq, Repr

namespace Leg

/-- Whether a destination `k` steps away is in reach. -/
def accepts (leg : Leg) (k : Int) : Bool :=
  leg.distance.accepts k || leg.ride.any fun ride => ride.accepts k

/-- The largest number of steps that can be in reach, if the leg has one; none if it rides. -/
def maxSteps? (leg : Leg) : Option Int :=
  if leg.ride.isSome then none else leg.distance.maxSteps?

end Leg

mutual

inductive Rule where
  | mk (leg : Leg) (directions : List Direction) (next : Option Rule)

inductive Direction where
  | heading (h : Heading)
  | group (rule : Rule)

end

deriving instance Repr for Rule, Direction

namespace Rule

def leg : Rule → Leg
  | mk leg _ _ => leg

def directions : Rule → List Direction
  | mk _ directions _ => directions

/-- The rule that goes on from every square reached. -/
def next? : Rule → Option Rule
  | mk _ _ next => next

end Rule

namespace Direction

def heading? : Direction → Option Heading
  | heading h => some h
  | group _ => none

def group? : Direction → Option Rule
  | heading _ => none
  | group rule => some rule

end Direction

namespace Rule

/-- The groups among the directions, in their order. -/
def groups (rule : Rule) : List Rule := rule.directions.filterMap Direction.group?

/-- The steps of the headings for a side, in their order and without repetition; none if some heading
does not suit the distance. -/
def steps? (rule : Rule) (color : Color) : Option (List Step) :=
  ((rule.directions.filterMap Direction.heading?).mapM fun (h : Heading) =>
    h.steps? color rule.leg.distance).map fun steps => steps.flatten.eraseDups

end Rule

end VariantChess.Movement
