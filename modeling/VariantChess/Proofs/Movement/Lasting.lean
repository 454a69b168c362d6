import Mathlib.Data.List.Basic
import VariantChess.Proofs.Fallible
import VariantChess.Proofs.Landing
import VariantChess.Targets

/-!
# What lasts of a rule

An initial rule is gone once the piece has moved, and with it goes what it has been part of: a group, the
rule that goes on, or a whole rule of the piece. What is left is a tree of rules again
(`Rule.lasting?`), and a piece that has moved goes by it as if there had never been anything else; for a
piece that has not moved, on the other hand, all is as if nothing were initial (`Rule.unrestricted`). The
flag is asked about again at each node of the tree, so both are proved along the tree, for rules, groups and
rules that go on at once.
-/

namespace VariantChess

namespace Movement

/-! ### Rules without initial parts -/

mutual

/-- The rule without its initial parts; none if it is initial itself. -/
def Rule.lasting? : Rule → Option Rule
  | .mk leg directions next =>
    if leg.initial then none
    else some (.mk leg (lastingDirections directions) (lastingNext? next))
termination_by structural rule => rule

/-- The directions without the groups that are initial, and without the initial parts of the others. -/
def lastingDirections : List Direction → List Direction
  | [] => []
  | direction :: directions =>
    (lastingDirection? direction).toList ++ lastingDirections directions
termination_by structural directions => directions

def lastingDirection? : Direction → Option Direction
  | .heading h => some (.heading h)
  | .group rule => rule.lasting?.map .group
termination_by structural direction => direction

def lastingNext? : Option Rule → Option Rule
  | none => none
  | some rule => rule.lasting?
termination_by structural next => next

end

/-! ### Rules that are there for any piece -/

mutual

/-- The rule with no part of it initial. -/
def Rule.unrestricted : Rule → Rule
  | .mk leg directions next =>
    .mk { leg with initial := false } (unrestrictedDirections directions) (unrestrictedNext next)
termination_by structural rule => rule

def unrestrictedDirections : List Direction → List Direction
  | [] => []
  | direction :: directions => unrestrictedDirection direction :: unrestrictedDirections directions
termination_by structural directions => directions

def unrestrictedDirection : Direction → Direction
  | .heading h => .heading h
  | .group rule => .group rule.unrestricted
termination_by structural direction => direction

def unrestrictedNext : Option Rule → Option Rule
  | none => none
  | some rule => some rule.unrestricted
termination_by structural next => next

end

variable {b : Board} {piece : Piece} {origin start : Square} {leg leg' : Leg}
  {directions directions' : List Direction} {next next' : Option Rule}

/-! ### The same headings -/

theorem lastingDirections_eq (directions : List Direction) :
    lastingDirections directions = directions.filterMap lastingDirection? := by
  induction directions with
  | nil => rfl
  | cons direction directions ih =>
    rw [lastingDirections, ih, List.filterMap_cons]
    cases lastingDirection? direction <;> rfl

theorem unrestrictedDirections_eq (directions : List Direction) :
    unrestrictedDirections directions = directions.map unrestrictedDirection := by
  induction directions with
  | nil => rfl
  | cons direction directions ih => rw [unrestrictedDirections, ih, List.map_cons]

theorem headings_lastingDirections (directions : List Direction) :
    (lastingDirections directions).filterMap Direction.heading? =
      directions.filterMap Direction.heading? := by
  rw [lastingDirections_eq, List.filterMap_filterMap]
  refine List.filterMap_congr fun direction _ => ?_
  cases direction with
  | heading h => rfl
  | group rule =>
    rw [lastingDirection?]
    cases rule.lasting? <;> rfl

theorem headings_unrestrictedDirections (directions : List Direction) :
    (unrestrictedDirections directions).filterMap Direction.heading? =
      directions.filterMap Direction.heading? := by
  rw [unrestrictedDirections_eq, List.filterMap_map]
  refine List.filterMap_congr fun direction _ => ?_
  cases direction <;> rfl

/-! ### Rules of the same targets -/

/-- The targets of a rule come from its headings and its leg, from those of its groups, and from those of
the rule that goes on. -/
theorem Rule.targets_congr {b' : Board}
    (usable : (leg'.initial && piece.hasMoved) = (leg.initial && piece.hasMoved))
    (distance : leg'.distance = leg.distance)
    (reach : ∀ v, leg'.reach b' piece.color start v = leg.reach b piece.color start v)
    (headings : directions'.filterMap Direction.heading? = directions.filterMap Direction.heading?)
    (groups : groupTargets b' piece start directions' = groupTargets b piece start directions)
    (onward : ∀ s, nextTargets b' piece origin s next' = nextTargets b piece origin s next) :
    (Rule.mk leg' directions' next').targets b' piece origin start =
      (Rule.mk leg directions next).targets b piece origin start := by
  have steps : (Rule.mk leg' directions' next').steps? piece.color =
      (Rule.mk leg directions next).steps? piece.color := by
    simp only [Rule.steps?, Rule.directions, Rule.leg, headings, distance]
  rw [Rule.targets, Rule.targets, usable, steps, groups, funext reach]
  simp only [onward]

/-! ### Pieces that have moved -/

mutual

/-- Run as a rule that goes on, which may be none, what lasts of a rule has the targets of the rule. -/
theorem Rule.targets_lasting? (moved : piece.hasMoved) (origin start : Square) : (rule : Rule) →
    nextTargets b piece origin start rule.lasting? = rule.targets b piece origin start
  | .mk leg directions next => by
    have groups := groupTargets_lasting moved start directions
    have onward := fun s => nextTargets_lasting moved origin s next
    rw [Rule.lasting?]
    split
    · rename_i initial
      rw [nextTargets, Rule.targets, if_pos (by simp [initial, moved])]
    · rw [nextTargets]
      exact Rule.targets_congr rfl rfl (fun _ => rfl) (headings_lastingDirections directions) groups onward
termination_by structural rule => rule

theorem groupTargets_lasting (moved : piece.hasMoved) (start : Square) : (directions : List Direction) →
    groupTargets b piece start (lastingDirections directions) = groupTargets b piece start directions
  | [] => rfl
  | direction :: directions => by
    have first := directionTargets_lasting moved start direction
    have others := groupTargets_lasting moved start directions
    rw [lastingDirections, groupTargets, ← others, ← first]
    cases lastingDirection? direction with
    | none =>
      -- nothing is left of the group, and `first` says that nothing came from it either
      rw [Option.toList_none, List.nil_append]
      show _ = (groupTargets b piece start (lastingDirections directions)).map ([] ++ ·)
      cases groupTargets b piece start (lastingDirections directions) <;> rfl
    | some kept =>
      rw [Option.toList_some, List.singleton_append, groupTargets]
      rfl
termination_by structural directions => directions

/-- A group of which nothing lasts has no targets. -/
theorem directionTargets_lasting (moved : piece.hasMoved) (start : Square) : (direction : Direction) →
    (lastingDirection? direction).elim (.ok []) (directionTargets b piece start) =
      directionTargets b piece start direction
  | .heading _ => rfl
  | .group rule => by
    have group := rule.targets_lasting? moved start start
    rw [directionTargets, ← group, lastingDirection?]
    cases rule.lasting? <;> rfl
termination_by structural direction => direction

theorem nextTargets_lasting (moved : piece.hasMoved) (origin start : Square) : (next : Option Rule) →
    nextTargets b piece origin start (lastingNext? next) = nextTargets b piece origin start next
  | none => rfl
  | some rule => rule.targets_lasting? moved origin start
termination_by structural next => next

end

/-! ### Pieces that have not moved -/

theorem Leg.reach_unrestricted (leg : Leg) (color : Color) (s : Square) (v : Step) :
    { leg with initial := false }.reach b color s v = leg.reach b color s v := by
  show { leg with initial := false }.walk b color 1 false (b.ray v (leg.span b) s) =
    leg.walk b color 1 false (b.ray v (leg.span b) s)
  refine walk_congr (fun k leapt cell => ?_) (fun k leapt cell => ?_) (fun leapt cell => ?_) 1 false _
  · cases cell <;> rfl
  · cases cell <;> rfl
  · rfl

mutual

theorem Rule.targets_unrestricted (unmoved : ¬ piece.hasMoved) (origin start : Square) : (rule : Rule) →
    rule.unrestricted.targets b piece origin start = rule.targets b piece origin start
  | .mk leg directions next => by
    have groups := groupTargets_unrestricted unmoved start directions
    have onward := fun s => nextTargets_unrestricted unmoved origin s next
    exact Rule.targets_congr (by simp [unmoved]) rfl (leg.reach_unrestricted _ _)
      (headings_unrestrictedDirections directions) groups onward
termination_by structural rule => rule

theorem groupTargets_unrestricted (unmoved : ¬ piece.hasMoved) (start : Square) :
    (directions : List Direction) →
    groupTargets b piece start (unrestrictedDirections directions) = groupTargets b piece start directions
  | [] => rfl
  | direction :: directions => by
    have first := directionTargets_unrestricted unmoved start direction
    have others := groupTargets_unrestricted unmoved start directions
    rw [unrestrictedDirections, groupTargets, groupTargets, first, others]
termination_by structural directions => directions

theorem directionTargets_unrestricted (unmoved : ¬ piece.hasMoved) (start : Square) :
    (direction : Direction) → directionTargets b piece start (unrestrictedDirection direction) =
      directionTargets b piece start direction
  | .heading _ => rfl
  | .group rule => rule.targets_unrestricted unmoved start start
termination_by structural direction => direction

theorem nextTargets_unrestricted (unmoved : ¬ piece.hasMoved) (origin start : Square) :
    (next : Option Rule) →
    nextTargets b piece origin start (unrestrictedNext next) = nextTargets b piece origin start next
  | none => rfl
  | some rule => rule.targets_unrestricted unmoved origin start
termination_by structural next => next

end

end Movement

/-! ### Pieces -/

namespace PieceKind

open Movement

/-- The kind with what lasts of its rules. -/
def lasting (kind : PieceKind) : PieceKind := { kind with rules := kind.rules.filterMap Rule.lasting? }

/-- The kind with no part of its rules initial. -/
def unrestricted (kind : PieceKind) : PieceKind := { kind with rules := kind.rules.map Rule.unrestricted }

variable {piece : Piece}

theorem moves_lasting (kind : PieceKind) (b : Board) (moved : piece.hasMoved) (origin : Square) :
    kind.lasting.moves b piece origin = kind.moves b piece origin := by
  have targets : kind.lasting.targets b piece origin = kind.targets b piece origin := by
    rw [PieceKind.targets, lasting, gather_filterMap]
    refine congrArg (gather · kind.rules) (funext fun rule => ?_)
    rw [← rule.targets_lasting? moved origin origin]
    cases rule.lasting? <;> rfl
  rw [moves, targets, moves]

/-- An initial group is removed, and an initial rule that goes on is cut off. -/
example : Rule.lasting? (.mk { distance := .exact 1 }
    [.heading .forward, .group (.mk { distance := .exact 2, initial := true } [.heading .diagonal] none)]
    (some (.mk { distance := .exact 1, initial := true } [.heading .sideways] none))) =
    some (.mk { distance := .exact 1 } [.heading .forward] none) := rfl

theorem moves_unrestricted (kind : PieceKind) (b : Board) (unmoved : ¬ piece.hasMoved) (origin : Square) :
    kind.unrestricted.moves b piece origin = kind.moves b piece origin := by
  have targets : kind.unrestricted.targets b piece origin = kind.targets b piece origin := by
    rw [PieceKind.targets, unrestricted, gather_map]
    refine congrArg (gather · kind.rules) (funext fun rule => ?_)
    exact rule.targets_unrestricted unmoved origin origin
  rw [moves, targets, moves]

end PieceKind

end VariantChess
