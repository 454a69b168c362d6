import Mathlib.Data.List.Flatten
import VariantChess.Proofs.Text.Letter
import VariantChess.Text.Case

/-!
# Upper and lower case, character by character

Only a capital sigma looks at its neighbours when a text is put into lower case; without one the text is
mapped character by character. On the letters `a` to `z` the two mappings are inverse to each other.
-/

namespace VariantChess.Text

variable {c : Char} {s : List Char}

/-! ### Texts in one case -/

theorem isUpper_iff : isUpper s ↔
    (∃ c ∈ s, isUpperChar c) ∧ ∀ c ∈ s, ¬ isLowerChar c ∧ ¬ isTitleChar c := by
  simp [isUpper]

theorem isLower_iff : isLower s ↔
    (∃ c ∈ s, isLowerChar c) ∧ ∀ c ∈ s, ¬ isUpperChar c ∧ ¬ isTitleChar c := by
  simp [isLower]

theorem isWord_iff : isWord s ↔ s ≠ [] ∧ ∀ c ∈ s, isLetter c := by
  simp [isWord]

theorem not_isUpper_of_isLower (h : isLower s) : ¬ isUpper s := by
  intro hu
  obtain ⟨⟨c, hc, lower⟩, -⟩ := isLower_iff.1 h
  exact ((isUpper_iff.1 hu).2 c hc).1 lower

/-! ### Without a sigma -/

theorem lowerAfter_eq_flatMap (h : ∀ c ∈ s, c.toNat ≠ 931) (before : List Char) :
    lowerAfter before s = s.flatMap lowerChar := by
  induction s generalizing before with
  | nil => rfl
  | cons c s ih =>
    obtain ⟨hc, hs⟩ := List.forall_mem_cons.1 h
    rw [lowerAfter, if_neg hc, ih hs, List.flatMap_cons]

theorem lower_eq_self (h : ∀ c ∈ s, c.toNat ≠ 931 ∧ lowerChar c = [c]) : lower s = s := by
  rw [lower, lowerAfter_eq_flatMap fun c hc => (h c hc).1,
    List.flatMap_congr fun c hc => (h c hc).2, List.flatMap_singleton']

/-! ### Letters with a case -/

/-- A letter in upper case and in no other. -/
def Capital (c : Char) : Prop := isLetter c ∧ isUpperChar c ∧ ¬ isLowerChar c ∧ ¬ isTitleChar c

/-- A letter in lower case and in no other. -/
def Small (c : Char) : Prop := isLetter c ∧ isLowerChar c ∧ ¬ isUpperChar c ∧ ¬ isTitleChar c

instance (c : Char) : Decidable (Capital c) := inferInstanceAs (Decidable (_ ∧ _))

instance (c : Char) : Decidable (Small c) := inferInstanceAs (Decidable (_ ∧ _))

/-- The dot above, which a dotted capital I leaves behind in lower case. -/
def dotAbove : Char := Char.ofNat 775

theorem isUpper_of_capital (hne : s ≠ []) (h : ∀ c ∈ s, Capital c) : isUpper s := by
  obtain ⟨c, s, rfl⟩ := List.exists_cons_of_ne_nil hne
  rw [isUpper_iff]
  exact ⟨⟨c, List.mem_cons_self, (h c List.mem_cons_self).2.1⟩, fun c hc => (h c hc).2.2⟩

theorem isLower_of_small (hne : s ≠ []) (h : ∀ c ∈ s, Small c) : isLower s := by
  obtain ⟨c, s, rfl⟩ := List.exists_cons_of_ne_nil hne
  rw [isLower_iff]
  exact ⟨⟨c, List.mem_cons_self, (h c List.mem_cons_self).2.1⟩, fun c hc => (h c hc).2.2⟩

/-! ### The letters from a to z -/

/-- The text consists of lower-case ASCII letters, and there is at least one. -/
def Plain (s : List Char) : Prop := s ≠ [] ∧ ∀ c ∈ s, 'a' ≤ c ∧ c ≤ 'z'

instance (s : List Char) : Decidable (Plain s) :=
  decidable_of_iff (s ≠ [] ∧ s.all fun c => 'a' ≤ c ∧ c ≤ 'z') (by simp [Plain])

theorem isAscii_of_plain (h : 'a' ≤ c ∧ c ≤ 'z') : isAscii c := by
  have high : c.toNat ≤ 122 := UInt32.le_iff_toNat_le.1 h.2
  simp only [isAscii, decide_eq_true_eq]
  omega

theorem plain_char (h : 'a' ≤ c ∧ c ≤ 'z') :
    Small c ∧ c.toNat ≠ 931 ∧ lowerChar c = [c] ∧ upperChar c = [c.toUpper] ∧
      Capital c.toUpper ∧ c.toUpper.toNat ≠ 931 ∧ lowerChar c.toUpper = [c] := by
  have ascii := isAscii_of_plain h
  revert h
  exact forall_ascii (by decide +kernel) ascii

namespace Plain

theorem small (plain : Plain s) : ∀ c ∈ s, Small c := fun c hc => (plain_char (plain.2 c hc)).1

theorem lower_eq (plain : Plain s) : lower s = s :=
  lower_eq_self fun c hc => by
    obtain ⟨-, sigma, hlower, -⟩ := plain_char (plain.2 c hc)
    exact ⟨sigma, hlower⟩

theorem upper_eq (plain : Plain s) : upper s = s.map Char.toUpper := by
  have single : ∀ c ∈ s, upperChar c = [c.toUpper] := fun c hc =>
    (plain_char (plain.2 c hc)).2.2.2.1
  rw [upper, List.flatMap_congr single, ← List.map_eq_flatMap]

theorem capital (plain : Plain s) : ∀ c ∈ upper s, Capital c := by
  intro c hc
  rw [plain.upper_eq] at hc
  obtain ⟨d, hd, rfl⟩ := List.mem_map.1 hc
  exact (plain_char (plain.2 d hd)).2.2.2.2.1

theorem lower_upper (plain : Plain s) : lower (upper s) = s := by
  have single : ∀ c ∈ s, lowerChar c.toUpper = [c] := fun c hc =>
    (plain_char (plain.2 c hc)).2.2.2.2.2.2
  have sigma : ∀ c ∈ s.map Char.toUpper, c.toNat ≠ 931 := by
    intro c hc
    obtain ⟨d, hd, rfl⟩ := List.mem_map.1 hc
    exact (plain_char (plain.2 d hd)).2.2.2.2.2.1
  rw [plain.upper_eq, lower, lowerAfter_eq_flatMap sigma, List.flatMap_map, List.flatMap_congr single,
    List.flatMap_singleton']

end Plain

end VariantChess.Text
