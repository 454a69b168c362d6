import VariantChess.Proofs.Landing
import VariantChess.Proofs.Movement.Change

/-!
# A leaper loses no move

Only where it ends makes the walk of a leaper different: it goes on behind a piece at which another walk
ends, and at each square it collects and remembers the same. So a leg that becomes a leaper reaches whatever
it has reached before (`Leg.reach_subset_leaper`), and the piece keeps its moves, wherever in its rules that
leg stands (`movesWithin_of_leaper`).
-/

namespace VariantChess

namespace Movement

variable {b : Board} {piece : Piece} {color : Color} {rule rule' : Rule}

/-! ### Walks -/

namespace Leg

/-- Both walks are at the same square and remember the same, as long as the one has not ended. -/
theorem walk_sublist_leaper (leg : Leg) (k : Nat) (leapt : Bool) (ahead : List Square) :
    (leg.walk b color k leapt ahead).Sublist
      ({ leg with leaper := true }.walk b color k leapt ahead) := by
  refine walk_sublist (fun k leapt cell => ?_) (fun k leapt cell => ?_) (fun leapt cell ended => ?_)
    k leapt ahead
  · cases cell <;> rfl
  · cases cell <;> rfl
  · simp [ends] at ended

/-- The leaper looks as far ahead as before. -/
theorem reach_subset_leaper (leg : Leg) (s : Square) (v : Step) :
    leg.reach b color s v ⊆ { leg with leaper := true }.reach b color s v :=
  (leg.walk_sublist_leaper 1 false _).subset

end Leg

/-! ### Rules -/

namespace Rule

/-- The leg of the rule becomes a leaper. -/
inductive Unbarred : Rule → Rule → Prop
  | mk (leg : Leg) (directions : List Direction) (next : Option Rule) :
      Unbarred (.mk leg directions next) (.mk { leg with leaper := true } directions next)

theorem Unbarred.within (unbarred : Unbarred rule rule') : Within b piece rule rule' := by
  obtain ⟨leg, directions, next⟩ := unbarred
  exact .of_walks id (fun v step => ⟨step, fun s => leg.reach_subset_leaper s v⟩)
    fun g mem => ⟨g, mem, .refl b piece g⟩

theorem Unbarred.suited (unbarred : Unbarred rule rule') (suited : rule.Suited) : rule'.Suited := by
  obtain ⟨leg, directions, next⟩ := unbarred
  obtain ⟨headings, groups, onward⟩ := suited
  exact .mk headings groups onward

end Rule

end Movement

/-! ### Pieces -/

namespace PieceKind

open Movement Movement.Rule

/-- A piece keeps its moves if the leg of some node of its rules becomes a leaper: of a rule, of a rule that
goes on or of one in a group. -/
theorem movesWithin_of_leaper {text : String} {front behind : List Rule} {rule rule' : Rule}
    (compiled : compilePiece text = .ok (front ++ rule :: behind)) (unbarred : Changed Unbarred rule rule')
    (kind : PieceKind) (b : Board) (piece : Piece) (origin : Square) :
    MovesWithin { kind with rules := front ++ rule :: behind }
      { kind with rules := front ++ rule' :: behind } b piece origin := by
  have suited := suited_of_compilePiece compiled
  have within : Within b piece rule rule' := unbarred.within fun _ _ => Unbarred.within
  refine .of_attains suited (fun rule₀ mem => ?_) fun d => ?_
  · rcases eq_or_mem_of_mem rule mem with rfl | mem
    · exact unbarred.suited (fun _ _ => Unbarred.suited) (suited rule (by simp))
    · exact suited rule₀ mem
  · rintro ⟨rule₀, mem, attained⟩
    rcases eq_or_mem_of_mem rule' mem with rfl | mem
    · exact ⟨rule', by simp, within origin d attained⟩
    · exact ⟨rule₀, mem, attained⟩

/-- Inside a group and behind a leg that goes on, a step of two squares becomes a leap. -/
theorem movesWithin_of_leaper_pivot :
    let hop (leaper : Bool) : Rule :=
      .mk {} [.group (.mk { distance := .exact 1 } [.heading .forward]
        (some (.mk { distance := .exact 2, leaper := leaper } [.heading .sideways] none)))] none
    let kind (leaper : Bool) : PieceKind := { name := "Hopper", rules := [] ++ hop leaper :: [] }
    let b := Board.ofRows [[some ⟨"h", .black, true⟩, none, none], [none, some ⟨"a", .white, false⟩, none]]
    compilePiece "n(1>.2=)" = .ok ([] ++ hop false :: []) ∧ Changed Unbarred (hop false) (hop true) ∧
    (kind false).MovesWithin (kind true) b ⟨"h", .black, true⟩ ⟨0, 0⟩ ∧
    (kind false).moves b ⟨"h", .black, true⟩ ⟨0, 0⟩ = .ok [⟨⟨0, 0⟩, ⟨0, 1⟩⟩] ∧
    (kind true).moves b ⟨"h", .black, true⟩ ⟨0, 0⟩ =
      .ok [⟨⟨0, 0⟩, ⟨0, 1⟩⟩, ⟨⟨0, 0⟩, ⟨2, 1⟩⟩] := by
  intro hop kind b
  have compiled : compilePiece "n(1>.2=)" = .ok ([] ++ hop false :: []) := rfl
  have unbarred : Changed Unbarred (hop false) (hop true) :=
    @Changed.group Unbarred {} [] [] none _ _ (.onward (.here (.mk _ _ _)))
  exact ⟨compiled, unbarred, movesWithin_of_leaper compiled unbarred (kind false) b _ _, rfl, rfl⟩

end PieceKind

end VariantChess
