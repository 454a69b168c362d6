import Mathlib.Tactic.SplitIfs
import VariantChess.Move

/-!
# Sorted lists of moves

`sortDistinct` gives the elements of a list in strictly increasing order, whenever the order is
transitive and any two different elements are comparable. Moves are ordered so. `sortStable` keeps all
elements, equal ones among them.
-/

namespace VariantChess

/-! ### Insertion -/

section insertion
variable {α : Type} [DecidableEq α] {before : α → α → Bool}

theorem mem_insertDistinct {a b : α} {bs : List α} :
    b ∈ insertDistinct before a bs ↔ b = a ∨ b ∈ bs := by
  induction bs with
  | nil => simp [insertDistinct]
  | cons c cs ih =>
    rw [insertDistinct]
    split_ifs with hac hbefore
    · subst hac; simp
    · simp
    · rw [List.mem_cons, List.mem_cons, ih]; exact or_left_comm

theorem mem_sortDistinct {a : α} {as : List α} : a ∈ sortDistinct before as ↔ a ∈ as := by
  have fold : ∀ (as sorted : List α),
      a ∈ as.foldl (fun sorted a => insertDistinct before a sorted) sorted ↔ a ∈ sorted ∨ a ∈ as := by
    intro as
    induction as with
    | nil => simp
    | cons b bs ih =>
      intro sorted
      rw [List.foldl_cons, ih, mem_insertDistinct, List.mem_cons, or_assoc]
      exact or_left_comm
  simpa [sortDistinct] using fold as []

variable (trans : ∀ a b c, before a b → before b c → before a c)
  (connected : ∀ a b, a ≠ b → before a b ∨ before b a)

include trans connected in
theorem pairwise_insertDistinct {a : α} {bs : List α} (h : bs.Pairwise (before · ·)) :
    (insertDistinct before a bs).Pairwise (before · ·) := by
  induction bs with
  | nil => simp [insertDistinct]
  | cons b bs ih =>
    obtain ⟨hb, hbs⟩ := List.pairwise_cons.1 h
    rw [insertDistinct]
    split_ifs with hab hbefore
    · exact h
    · refine List.pairwise_cons.2 ⟨fun c hc => ?_, h⟩
      rcases List.mem_cons.1 hc with rfl | hc
      · exact hbefore
      · exact trans a b c hbefore (hb c hc)
    · refine List.pairwise_cons.2 ⟨fun c hc => ?_, ih hbs⟩
      rcases mem_insertDistinct.1 hc with rfl | hc
      · exact (connected c b hab).resolve_left hbefore
      · exact hb c hc

include trans connected in
theorem pairwise_sortDistinct (as : List α) : (sortDistinct before as).Pairwise (before · ·) := by
  have fold : ∀ (as sorted : List α), sorted.Pairwise (before · ·) →
      (as.foldl (fun sorted a => insertDistinct before a sorted) sorted).Pairwise (before · ·) := by
    intro as
    induction as with
    | nil => exact fun _ h => h
    | cons a as ih => exact fun sorted h => ih _ (pairwise_insertDistinct trans connected h)
  exact fold as [] .nil

end insertion

section stable
variable {α : Type} {before : α → α → Bool}

theorem length_insertBehind (a : α) (bs : List α) :
    (insertBehind before a bs).length = bs.length + 1 := by
  induction bs with
  | nil => rfl
  | cons b bs ih =>
    rw [insertBehind]
    split_ifs
    · rfl
    · rw [List.length_cons, ih, List.length_cons]

theorem length_sortStable (as : List α) : (sortStable before as).length = as.length := by
  have fold : ∀ (as sorted : List α),
      (as.foldl (fun sorted a => insertBehind before a sorted) sorted).length =
        sorted.length + as.length := by
    intro as
    induction as with
    | nil => exact fun _ => rfl
    | cons a as ih =>
      intro sorted
      rw [List.foldl_cons, ih, length_insertBehind, List.length_cons, Nat.add_right_comm, Nat.add_assoc]
  simpa [sortStable] using fold as []

end stable

/-! ### The order of squares and moves -/

namespace Square
variable {a b c : Square}

theorem precedes_iff : a.precedes b ↔ a.x < b.x ∨ a.x = b.x ∧ a.y < b.y := by
  simp [precedes]

theorem precedes_trans (h : a.precedes b) (h' : b.precedes c) : a.precedes c := by
  rw [precedes_iff] at *; omega

theorem not_precedes_self (a : Square) : ¬ a.precedes a := by
  rw [precedes_iff]; omega

theorem precedes_or_precedes (h : a ≠ b) : a.precedes b ∨ b.precedes a := by
  have hxy : ¬ (a.x = b.x ∧ a.y = b.y) := fun ⟨hx, hy⟩ => h (by cases a; cases b; simp_all)
  simp only [precedes_iff]; omega

end Square

namespace Move
variable {a b c : Move}

theorem precedes_iff : a.precedes b ↔
    a.origin.precedes b.origin ∨ a.origin = b.origin ∧ a.destination.precedes b.destination := by
  simp [precedes]

theorem precedes_trans (h : a.precedes b) (h' : b.precedes c) : a.precedes c := by
  rw [precedes_iff] at *
  rcases h with h | ⟨hab, h⟩ <;> rcases h' with h' | ⟨hbc, h'⟩
  · exact .inl (Square.precedes_trans h h')
  · exact .inl (hbc ▸ h)
  · exact .inl (hab ▸ h')
  · exact .inr ⟨hab.trans hbc, Square.precedes_trans h h'⟩

theorem not_precedes_self (a : Move) : ¬ a.precedes a := by
  rw [precedes_iff]
  exact fun h => h.elim (Square.not_precedes_self _) fun h => Square.not_precedes_self _ h.2

theorem precedes_or_precedes (h : a ≠ b) : a.precedes b ∨ b.precedes a := by
  simp only [precedes_iff]
  by_cases ho : a.origin = b.origin
  · have hd : a.destination ≠ b.destination := fun hd => h (by cases a; cases b; simp_all)
    exact (Square.precedes_or_precedes hd).imp (.inr ⟨ho, ·⟩) (.inr ⟨ho.symm, ·⟩)
  · exact (Square.precedes_or_precedes ho).imp .inl .inl

theorem mem_sort {m : Move} {moves : List Move} : m ∈ sort moves ↔ m ∈ moves := mem_sortDistinct

theorem pairwise_sort (moves : List Move) : (sort moves).Pairwise (precedes · ·) := by
  refine pairwise_sortDistinct ?_ ?_ moves
  · exact fun _ _ _ => precedes_trans
  · exact fun _ _ => precedes_or_precedes

theorem nodup_of_pairwise {moves : List Move} (h : moves.Pairwise (precedes · ·)) : moves.Nodup := by
  refine List.Pairwise.imp (fun {a b} hab => ?_) h
  rintro rfl
  exact not_precedes_self a hab

theorem nodup_sort (moves : List Move) : (sort moves).Nodup := nodup_of_pairwise (pairwise_sort moves)

end Move

end VariantChess
