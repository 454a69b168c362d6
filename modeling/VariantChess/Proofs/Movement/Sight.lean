import VariantChess.Proofs.Board.Cells
import VariantChess.Proofs.Movement.Lasting
import VariantChess.Proofs.Movement.Meaning

/-!
# What a piece sees

On its way a piece asks of a square only whether it is on the board, whether anything stands there, and
whether that is of its own side. So it cannot tell apart two boards of one size that agree in this
(`Board.LooksLike`): it takes the same walks on both, and its rules have the same targets in the same order.
What kind of piece stands in its way, whether that has moved, and whose it is if it is not its own, makes no
difference to its moves (`PieceKind.moves_of_looksLike`).
-/

namespace VariantChess

namespace Board

/-- A side sees no difference between the boards: they have one size, the same squares are occupied, and
it is on the same ones that pieces of its own stand. -/
structure LooksLike (color : Color) (b b' : Board) : Prop where
  width : b'.width = b.width
  height : b'.height = b.height
  empty : ∀ s, b'.cell s = none ↔ b.cell s = none
  own : ∀ s p p', b.cell s = some p → b'.cell s = some p' → (p'.color = color ↔ p.color = color)

/-- What a side sees of a cell: whether a piece stands there, and if so whether it is its own. -/
def view (color : Color) (c : Cell) : Option Bool := c.map fun p => p.color == color

variable {b b' : Board} {color : Color}

namespace LooksLike

/-- Boards of one width whose rows look the same, cell by cell. -/
theorem of_rows (width : b'.width = b.width)
    (rows : b'.rows.map (·.map (view color)) = b.rows.map (·.map (view color))) :
    b.LooksLike color b' := by
  have height : b'.height = b.height := by simpa [Board.height] using congrArg List.length rows
  have seen : ∀ s, view color (b'.cell s) = view color (b.cell s) := by
    intro s
    have same : b'.contains s = b.contains s := by
      rw [Bool.eq_iff_iff, contains_iff, contains_iff, width, height]
    by_cases hs : b.contains s
    · obtain ⟨x, y, rfl, -, -⟩ := exists_natCast_of_contains hs
      have row : (b'.rows[y]?.getD []).map (view color) = (b.rows[y]?.getD []).map (view color) := by
        rw [← Option.getD_map (List.map (view color)), ← Option.getD_map (List.map (view color)),
          ← List.getElem?_map, ← List.getElem?_map, rows]
      rw [cell_natCast, cell_natCast, ← Option.getD_map (view color), ← Option.getD_map (view color),
        ← List.getElem?_map, ← List.getElem?_map, row]
    · rw [cell, cell, same, if_neg hs, if_neg hs]
  refine ⟨width, height, fun s => ?_, fun s p p' hp hp' => ?_⟩
  · have same : (b'.cell s).isNone = (b.cell s).isNone := by
      simpa [view] using congrArg Option.isNone (seen s)
    rw [← Option.isNone_iff_eq_none, same, Option.isNone_iff_eq_none]
  · have seen := seen s
    rw [hp, hp'] at seen
    have own : (p'.color == color) = (p.color == color) := Option.some.inj seen
    rw [← beq_iff_eq, own, beq_iff_eq]

variable (alike : b.LooksLike color b')
include alike

theorem cell_cases (s : Square) : b.cell s = none ∧ b'.cell s = none ∨
    ∃ p p', b.cell s = some p ∧ b'.cell s = some p' ∧ (p'.color == color) = (p.color == color) := by
  cases hp : b.cell s with
  | none => exact .inl ⟨rfl, (alike.empty s).2 hp⟩
  | some p =>
    obtain ⟨p', hp'⟩ := Option.ne_none_iff_exists'.1 (mt (alike.empty s).1 (by simp [hp]))
    refine .inr ⟨p, p', rfl, hp', ?_⟩
    rw [Bool.eq_iff_iff, beq_iff_eq, beq_iff_eq]
    exact alike.own s p p' hp hp'

theorem contains_eq (s : Square) : b'.contains s = b.contains s := by
  rw [Bool.eq_iff_iff, contains_iff, contains_iff, alike.width, alike.height]

theorem ray_eq (v : Step) (n : Nat) (s : Square) : b'.ray v n s = b.ray v n s := by
  induction n generalizing s with
  | zero => rfl
  | succ n ih => rw [ray, ray, alike.contains_eq, ih]

end LooksLike

end Board

namespace Movement

variable {b b' : Board} {piece : Piece} {color : Color}

/-! ### Walks -/

namespace Leg

variable (leg : Leg)

/-- What a walk does with a square is the same on both boards. -/
theorem same_of_looksLike (alike : b.LooksLike color b') (k : Nat) (leapt : Bool) (s : Square) :
    leg.collects color k leapt (b'.cell s) = leg.collects color k leapt (b.cell s) ∧
      leg.ends leapt (b'.cell s) = leg.ends leapt (b.cell s) ∧
      leg.leaps color k leapt (b'.cell s) = leg.leaps color k leapt (b.cell s) := by
  obtain ⟨hp, hp'⟩ | ⟨p, p', hp, hp', own⟩ := alike.cell_cases s
  · rw [hp, hp']
    exact ⟨rfl, rfl, rfl⟩
  · rw [hp, hp']
    refine ⟨?_, rfl, ?_⟩
    · rw [collects, collects, own]
    · rw [leaps, leaps, own]

/-- Both walks are at the same square and remember the same. -/
theorem walk_of_looksLike (alike : b.LooksLike color b') (k : Nat) (leapt : Bool) (ahead : List Square) :
    leg.walk b' color k leapt ahead = leg.walk b color k leapt ahead := by
  induction ahead generalizing k leapt with
  | nil => rfl
  | cons d ahead ih =>
    obtain ⟨collects, ends, leaps⟩ := leg.same_of_looksLike alike k leapt d
    rw [walk_cons, walk_cons, collects, ends, leaps, ih]

theorem reach_of_looksLike (alike : b.LooksLike color b') (s : Square) (v : Step) :
    leg.reach b' color s v = leg.reach b color s v := by
  have span : leg.span b' = leg.span b := by
    rw [Leg.span, Leg.span, Board.extent, Board.extent, alike.width, alike.height]
  rw [reach, reach, span, alike.ray_eq, leg.walk_of_looksLike alike]

end Leg

/-! ### Rules -/

mutual

theorem Rule.targets_of_looksLike (alike : b.LooksLike piece.color b') (origin start : Square) : (rule : Rule) →
    rule.targets b' piece origin start = rule.targets b piece origin start
  | .mk leg directions next => by
    have groups := groupTargets_of_looksLike alike start directions
    have onward := fun s => nextTargets_of_looksLike alike origin s next
    exact Rule.targets_congr rfl rfl (leg.reach_of_looksLike alike start) rfl groups onward
termination_by structural rule => rule

theorem groupTargets_of_looksLike (alike : b.LooksLike piece.color b') (start : Square) :
    (directions : List Direction) →
    groupTargets b' piece start directions = groupTargets b piece start directions
  | [] => rfl
  | direction :: directions => by
    have first := directionTargets_of_looksLike alike start direction
    have others := groupTargets_of_looksLike alike start directions
    rw [groupTargets, groupTargets, first, others]
termination_by structural directions => directions

theorem directionTargets_of_looksLike (alike : b.LooksLike piece.color b') (start : Square) :
    (direction : Direction) →
    directionTargets b' piece start direction = directionTargets b piece start direction
  | .heading _ => rfl
  | .group rule => rule.targets_of_looksLike alike start start
termination_by structural direction => direction

theorem nextTargets_of_looksLike (alike : b.LooksLike piece.color b') (origin start : Square) :
    (next : Option Rule) →
    nextTargets b' piece origin start next = nextTargets b piece origin start next
  | none => rfl
  | some rule => rule.targets_of_looksLike alike origin start
termination_by structural next => next

end

end Movement

/-! ### Pieces -/

namespace PieceKind

open Movement

variable {b b' : Board} {piece : Piece}

/-- A piece of a compiled kind has moves, and on two boards between which its side sees no difference these
are the same ones in the same order. -/
theorem moves_of_looksLike {kind : PieceKind} {text : String}
    (compiled : compilePiece text = .ok kind.rules) (alike : b.LooksLike piece.color b')
    (origin : Square) :
    ∃ moves, kind.moves b piece origin = .ok moves ∧ kind.moves b' piece origin = .ok moves := by
  obtain ⟨targets, htargets, -⟩ :=
    exists_kindTargets (Rule.suited_of_compilePiece compiled) b piece origin
  have same : kind.targets b' piece origin = kind.targets b piece origin :=
    congrArg (gather · kind.rules) (funext (Rule.targets_of_looksLike alike origin origin))
  refine ⟨targets.map (Move.mk origin), ?_, ?_⟩
  · rw [moves, htargets]
    rfl
  · rw [moves, same, htargets]
    rfl

/-- A locust that goes on diagonally. All other pieces are exchanged for ones of another kind that have or
have not moved, and the enemies change their sides as well. -/
theorem moves_of_looksLike_locust :
    let hopper : PieceKind := {
      name := "hopper"
      rules := [.mk { locust := true } [.heading .orthogonal]
        (some (.mk { distance := .exact 1 } [.heading .diagonal] none))] }
    let piece : Piece := ⟨"r", .white, false⟩
    let b := Board.ofRows [[some piece, some ⟨"k", .black, false⟩, none, some ⟨"a", .black, true⟩],
      [none, none, none, none], [some ⟨"a", .white, false⟩, none, none, some ⟨"a", .yellow, false⟩]]
    let b' := Board.ofRows [[some piece, some ⟨"a", .yellow, true⟩, none, some ⟨"k", .yellow, false⟩],
      [none, none, none, none], [some ⟨"k", .white, true⟩, none, none, some ⟨"b", .black, true⟩]]
    compilePiece "^n+.1X" = .ok hopper.rules ∧ b.LooksLike .white b' ∧
      (∃ moves, hopper.moves b piece ⟨0, 0⟩ = .ok moves ∧ hopper.moves b' piece ⟨0, 0⟩ = .ok moves) ∧
      hopper.moves b' piece ⟨0, 0⟩ = .ok [⟨⟨0, 0⟩, ⟨3, 0⟩⟩, ⟨⟨0, 0⟩, ⟨2, 1⟩⟩, ⟨⟨0, 0⟩, ⟨0, 1⟩⟩,
        ⟨⟨0, 0⟩, ⟨1, 2⟩⟩, ⟨⟨0, 0⟩, ⟨1, 0⟩⟩] := by
  intro hopper piece b b'
  have compiled : compilePiece "^n+.1X" = .ok hopper.rules := rfl
  have alike : b.LooksLike .white b' := .of_rows rfl (by decide)
  exact ⟨compiled, alike, moves_of_looksLike compiled alike ⟨0, 0⟩, rfl⟩

end PieceKind

end VariantChess
