import Mathlib.Data.List.Chain
import VariantChess.Text.Character
import VariantChess.Text.Digit
import VariantChess.Text.Letter

/-!
# Letters are neither digits nor blanks

Two tables of ranges, each in the order of where its ranges begin, are compared by one walk through
both (`apart`). So letters can be told from digits and from blanks without looking at every pair of
ranges (`not_isDigit_of_isLetter`, `not_isBlank_of_isLetter`).
-/

namespace VariantChess.Text

variable {c : Char} {table table' : List (Nat × Nat)}

/-! ### The first characters -/

@[elab_as_elim]
theorem forall_ascii {p : Char → Prop} (h : ∀ n < 128, p (Char.ofNat n)) (hc : isAscii c) : p c := by
  have hlt : c.toNat < 128 := by simpa [isAscii] using hc
  simpa using h c.toNat hlt

/-! ### Tables -/

theorem inRanges_iff : inRanges table c ↔ ∃ r ∈ table, r.1 ≤ c.toNat ∧ c.toNat ≤ r.2 := by
  simp [inRanges]

/-- Whether a range overlaps none of those of a table; what lies behind it is left to `onward`. -/
def clears (r : Nat × Nat) (onward : List (Nat × Nat) → Bool) : List (Nat × Nat) → Bool
  | [] => true
  | r' :: table =>
    if Nat.blt r.2 r'.1 then onward (r' :: table)
    else if Nat.blt r'.2 r.1 then clears r onward table
    else false

/-- Whether no range of the one table overlaps one of the other. -/
def apart : List (Nat × Nat) → List (Nat × Nat) → Bool
  | [] => fun _ => true
  | r :: table => clears r (apart table)

/-- The ranges come in the order in which they begin. -/
abbrev Ordered (table : List (Nat × Nat)) : Prop := table.IsChain fun r r' => r.1 ≤ r'.1

theorem Ordered.pairwise (h : Ordered table) : table.Pairwise fun r r' => r.1 ≤ r'.1 := by
  have trans : IsTrans (Nat × Nat) fun r r' => r.1 ≤ r'.1 := ⟨fun _ _ _ => Nat.le_trans⟩
  exact List.isChain_iff_pairwise.1 h

theorem forall_of_apart (ordered : table.Pairwise fun r r' => r.1 ≤ r'.1)
    (ordered' : table'.Pairwise fun r r' => r.1 ≤ r'.1) (h : apart table table') :
    ∀ r ∈ table, ∀ r' ∈ table', r.2 < r'.1 ∨ r'.2 < r.1 := by
  induction table generalizing table' with
  | nil => simp
  | cons r table ih =>
    obtain ⟨first, ordered⟩ := List.pairwise_cons.1 ordered
    induction table' with
    | nil => simp
    | cons r' table' ih' =>
      obtain ⟨first', ordered'⟩ := List.pairwise_cons.1 ordered'
      rw [apart, clears] at h
      split at h
      · -- the range lies before all that are left of the other table
        rename_i before
        have before : r.2 < r'.1 := by simpa [Nat.blt_eq] using before
        intro s hs s' hs'
        rcases List.mem_cons.1 hs with rfl | hs
        · rcases List.mem_cons.1 hs' with rfl | hs'
          · exact .inl before
          · exact .inl (Nat.lt_of_lt_of_le before (first' s' hs'))
        · exact ih ordered (List.pairwise_cons.2 ⟨first', ordered'⟩) h s hs s' hs'
      · split at h
        · rename_i behind
          have behind : r'.2 < r.1 := by simpa [Nat.blt_eq] using behind
          intro s hs s' hs'
          rcases List.mem_cons.1 hs' with rfl | hs'
          · rcases List.mem_cons.1 hs with rfl | hs
            · exact .inr behind
            · exact .inr (Nat.lt_of_lt_of_le behind (first s hs))
          · exact ih' ordered' h s hs s' hs'
        · cases h

theorem not_inRanges_of_apart (ordered : Ordered table) (ordered' : Ordered table')
    (h : apart table table') (hc : inRanges table c) : ¬ inRanges table' c := by
  intro hc'
  obtain ⟨r, hr, hlow, hhigh⟩ := inRanges_iff.1 hc
  obtain ⟨r', hr', hlow', hhigh'⟩ := inRanges_iff.1 hc'
  rcases forall_of_apart ordered.pairwise ordered'.pairwise h r hr r' hr' with hlt | hlt <;> omega

/-! ### Letters -/

theorem ordered_letterRanges : Ordered letterRanges := by decide +kernel

theorem not_isDigit_of_isLetter (h : isLetter c) : ¬ isDigit c := by
  by_cases hc : isAscii c
  · revert h
    exact forall_ascii (by decide +kernel) hc
  · rw [isLetter, if_neg hc] at h
    rw [isDigit, if_neg hc, Bool.or_eq_true, not_or]
    have decimal : Ordered decimalRanges ∧ apart letterRanges decimalRanges := by decide +kernel
    have lone : Ordered loneDigitRanges ∧ apart letterRanges loneDigitRanges := by decide +kernel
    exact ⟨not_inRanges_of_apart ordered_letterRanges decimal.1 decimal.2 h,
      not_inRanges_of_apart ordered_letterRanges lone.1 lone.2 h⟩

theorem not_isBlank_of_isLetter (h : isLetter c) : ¬ isBlank c := by
  by_cases hc : isAscii c
  · revert h
    exact forall_ascii (by decide +kernel) hc
  · rw [isLetter, if_neg hc] at h
    have blank : Ordered blankRanges ∧ apart letterRanges blankRanges := by decide +kernel
    exact not_inRanges_of_apart ordered_letterRanges blank.1 blank.2 h

end VariantChess.Text
