import VariantChess.Walk

/-!
# Where walks can end

A walk stays on the board and never takes a piece of its own side, whatever its leg allows.
-/

namespace VariantChess

/-- A piece of this side may come to stand on the square: it is on the board and holds no piece of the
side. -/
def Board.Admits (b : Board) (color : Color) (s : Square) : Prop :=
  b.contains s ∧ ∀ p, b.cell s = some p → p.color ≠ color

variable {b : Board} {s d : Square} {v : Step} {color : Color}

theorem Board.contains_of_mem_ray {n : Nat} (h : d ∈ b.ray v n s) : b.contains d := by
  induction n generalizing s with
  | zero => simp [ray] at h
  | succ n ih =>
    rw [ray] at h
    split at h
    · rcases List.mem_cons.1 h with rfl | h
      · assumption
      · exact ih h
    · simp at h

namespace Movement.Leg
variable {leg : Leg}

theorem mem_of_mem_walk {k : Nat} {leapt : Bool} {ahead : List Square}
    (h : d ∈ leg.walk b color k leapt ahead) :
    d ∈ ahead ∧ ∀ p, b.cell d = some p → p.color ≠ color := by
  induction ahead generalizing k leapt with
  | nil => simp [walk] at h
  | cons s ahead ih =>
    have further : ∀ {k leapt}, d ∈ leg.walk b color k leapt ahead →
        d ∈ s :: ahead ∧ ∀ p, b.cell d = some p → p.color ≠ color :=
      fun h => ⟨List.mem_cons_of_mem _ (ih h).1, (ih h).2⟩
    rw [walk] at h
    split at h
    · rename_i hs
      split at h
      · rcases List.mem_cons.1 h with rfl | h
        · exact ⟨List.mem_cons_self, by simp [hs]⟩
        · exact further h
      · exact further h
    · rename_i piece hs
      -- the walk goes on behind the piece only if it leaps
      have behind : ∀ {c : Bool} {k leapt},
          d ∈ (if c then leg.walk b color k leapt ahead else []) →
          d ∈ s :: ahead ∧ ∀ p, b.cell d = some p → p.color ≠ color := by
        intro c k leapt h
        split at h
        · exact further h
        · simp at h
      split at h
      · dsimp only at h
        split at h
        · exact behind h
        · rename_i hfree
          rcases List.mem_cons.1 h with rfl | h
          · refine ⟨List.mem_cons_self, fun p hp hcolor => hfree ?_⟩
            obtain rfl : piece = p := by simpa [hs] using hp
            simp [hcolor]
          · exact behind h
      · exact behind h

theorem admits_of_mem_reach (h : d ∈ leg.reach b color s v) : b.Admits color d :=
  ⟨Board.contains_of_mem_ray (mem_of_mem_walk h).1, (mem_of_mem_walk h).2⟩

end Movement.Leg

end VariantChess
