import Mathlib.Algebra.Group.Nat.Defs
import Mathlib.Data.Bool.AllAny
import Mathlib.Data.List.Basic
import Mathlib.Data.List.TakeWhile
import VariantChess.Text.Digit

/-!
# Numerals

A *numeral* is a run of decimal digits that is not empty, and every numeral has a value. It is read as that
value if it has no more digits than a number may have, and is not read at all otherwise
(`number_eq_ok_iff`). Among the numerals are the digits of a number in base ten, and these have that number
as their value (`value_toDigits`). A reader takes a whole run of digits if no digit stands behind it
(`takeWhile_run`).
-/

namespace VariantChess.Text

variable {c : Char} {digits : List Char}

/-! ### Runs -/

section run
variable {α : Type} {p : α → Bool} {run rest : List α}

theorem takeWhile_run (hrun : ∀ a ∈ run, p a) (stop : ∀ a ∈ rest.head?, ¬ p a) :
    (run ++ rest).takeWhile p = run := by
  rw [List.takeWhile_append_of_pos hrun]
  cases rest with
  | nil => simp
  | cons a rest => rw [List.takeWhile_cons_of_neg (stop a rfl), List.append_nil]

theorem dropWhile_run (hrun : ∀ a ∈ run, p a) (stop : ∀ a ∈ rest.head?, ¬ p a) :
    (run ++ rest).dropWhile p = rest := by
  rw [List.dropWhile_append_of_pos hrun]
  cases rest with
  | nil => rfl
  | cons a rest => exact List.dropWhile_cons_of_neg (stop a rfl)

end run

/-! ### Digits -/

theorem isDigit_of_decimalValue? (h : (decimalValue? c).isSome) : isDigit c := by
  rw [decimalValue?] at h
  rw [isDigit]
  by_cases ascii : isAscii c
  · rw [if_pos ascii] at h ⊢
    by_contra hc
    simp [hc] at h
  · rw [if_neg ascii] at h ⊢
    rw [Option.isSome_map, List.find?_isSome] at h
    obtain ⟨range, hmem, hc⟩ := h
    exact Bool.or_eq_true_iff.2 (.inl (List.any_eq_true.2 ⟨range, hmem, hc⟩))

theorem decimalValue?_of_isDigit_ascii (h : c.isDigit) : decimalValue? c = some (c.toNat - '0'.toNat) := by
  have bound : c.toNat < 128 := by
    simp only [Char.isDigit, Bool.and_eq_true, decide_eq_true_eq] at h
    have := UInt32.le_iff_toNat_le.1 h.2
    exact Nat.lt_of_le_of_lt this (by decide)
  rw [decimalValue?, if_pos (by simpa [isAscii] using bound), if_pos h]

/-- No digit stands behind all the digits of a front. -/
theorem not_isDigit_dropWhile (cs : List Char) : ∀ c ∈ (cs.dropWhile isDigit).head?, ¬ isDigit c := by
  intro c hc
  have stop := List.head?_dropWhile_not isDigit cs
  rw [Option.mem_def.1 hc] at stop
  exact Bool.eq_false_iff.1 stop

/-! ### Numerals -/

/-- The characters are decimal digits, and there is at least one. -/
def IsNumeral (digits : List Char) : Prop := digits ≠ [] ∧ ∀ c ∈ digits, (decimalValue? c).isSome

instance (digits : List Char) : Decidable (IsNumeral digits) :=
  decidable_of_iff (digits ≠ [] ∧ digits.all fun c => (decimalValue? c).isSome)
    (and_congr_right fun _ => List.all_eq_true)

/-- The number that digits write in base ten, however many there are. -/
def value (digits : List Char) : Nat := (decimal? digits).getD 0

/-- What one more digit makes of a number. -/
def append? (n : Option Nat) (c : Char) : Option Nat := do return 10 * (← n) + (← decimalValue? c)

theorem decimal?_eq_foldl (h : digits ≠ []) : decimal? digits = digits.foldl append? (some 0) := by
  rw [decimal?, if_neg (by simpa using h)]
  rfl

theorem foldl_append?_none (digits : List Char) : digits.foldl append? none = none := by
  induction digits with
  | nil => rfl
  | cons c digits ih => exact ih

theorem isSome_foldl_append?_iff {n : Nat} :
    (digits.foldl append? (some n)).isSome ↔ ∀ c ∈ digits, (decimalValue? c).isSome := by
  induction digits generalizing n with
  | nil => simp
  | cons c digits ih =>
    rw [List.foldl_cons, List.forall_mem_cons]
    cases hc : decimalValue? c with
    | none => simp [append?, hc, foldl_append?_none]
    | some d => simp [append?, hc, ih]

theorem isSome_decimal?_iff : (decimal? digits).isSome ↔ IsNumeral digits := by
  by_cases h : digits = []
  · simp [h, decimal?, IsNumeral]
  · rw [decimal?_eq_foldl h, isSome_foldl_append?_iff, IsNumeral, and_iff_right h]

theorem decimal?_eq_some_value (h : IsNumeral digits) : decimal? digits = some (value digits) := by
  obtain ⟨n, hn⟩ := Option.isSome_iff_exists.1 (isSome_decimal?_iff.2 h)
  rw [value, hn, Option.getD_some]

theorem IsNumeral.isDigit (h : IsNumeral digits) : ∀ c ∈ digits, isDigit c := fun c hc =>
  isDigit_of_decimalValue? (h.2 c hc)

/-! ### Numbers -/

/-- There are no more digits than a number may have. -/
def Short (digits : List Char) : Prop := digits.length ≤ digitLimit

instance (digits : List Char) : Decidable (Short digits) := inferInstanceAs (Decidable (_ ≤ _))

/-- A numeral is read as its value, unless it is too long. -/
theorem number_of_isNumeral (h : IsNumeral digits) : number digits =
    if Short digits then .ok (value digits) else .error (.tooLong digits.length) := by
  have front : digits.takeWhile (fun c => (decimalValue? c).isSome) = digits :=
    List.takeWhile_eq_self_iff.2 h.2
  rw [number, front, decimal?_eq_some_value h]
  by_cases short : Short digits
  · rw [if_pos short, if_neg (Nat.not_lt.2 short)]
  · rw [if_neg short, if_pos (Nat.not_le.1 short)]

theorem number_eq_ok_iff {n : Nat} :
    number digits = .ok n ↔ IsNumeral digits ∧ Short digits ∧ value digits = n := by
  by_cases numeral : IsNumeral digits
  · rw [number_of_isNumeral numeral]
    by_cases short : Short digits <;> simp [numeral, short]
  · have hnone : decimal? digits = none := by
      rw [← isSome_decimal?_iff] at numeral
      simpa using numeral
    refine iff_of_false (fun h => ?_) fun h => numeral h.1
    rw [number, hnone] at h
    dsimp only at h
    split at h <;> cases h

theorem exists_number_error_iff :
    (∃ fault, number digits = .error fault) ↔ ¬ (IsNumeral digits ∧ Short digits) := by
  cases h : number digits with
  | ok n =>
    obtain ⟨numeral, short, -⟩ := number_eq_ok_iff.1 h
    simp [numeral, short]
  | error fault =>
    refine iff_of_true ⟨fault, rfl⟩ ?_
    rintro ⟨numeral, short⟩
    cases h.symm.trans (number_eq_ok_iff.2 ⟨numeral, short, rfl⟩)

/-- A digit of the text is no decimal digit. -/
def Undecimal (cs : List Char) : Prop := ∃ c ∈ cs, isDigit c ∧ decimalValue? c = none

theorem Undecimal.mono {cs text : List Char} (h : Undecimal cs) (subset : cs ⊆ text) : Undecimal text := by
  obtain ⟨c, hc, hdigit⟩ := h
  exact ⟨c, subset hc, hdigit⟩

/-- More digits than a number may have stand together. -/
def Overlong (cs : List Char) : Prop := ∃ run, run <:+: cs ∧ (∀ c ∈ run, isDigit c) ∧ ¬ Short run

theorem Overlong.mono {cs text : List Char} (h : Overlong cs) (infix' : cs <:+: text) :
    Overlong text := by
  obtain ⟨run, hrun, digit, long⟩ := h
  exact ⟨run, hrun.trans infix', digit, long⟩

/-- The text begins with digits, but those that stand there together are no number. -/
def Misnumbered (cs : List Char) : Prop :=
  cs.takeWhile isDigit ≠ [] ∧ ¬ (IsNumeral (cs.takeWhile isDigit) ∧ Short (cs.takeWhile isDigit))

instance (cs : List Char) : Decidable (Misnumbered cs) := inferInstanceAs (Decidable (_ ∧ _))

theorem misnumbered_iff {cs : List Char} : Misnumbered cs ↔
    cs.takeWhile isDigit ≠ [] ∧ ∃ fault, number (cs.takeWhile isDigit) = .error fault := by
  rw [Misnumbered, exists_number_error_iff]

/-- Either a digit is none of a number, or there are too many. -/
theorem Misnumbered.undecimal_or_overlong {cs : List Char} (h : Misnumbered cs) :
    Undecimal cs ∨ Overlong cs := by
  obtain ⟨some, bad⟩ := h
  have digit : ∀ c ∈ cs.takeWhile isDigit, isDigit c := fun c hc => List.mem_takeWhile_imp hc
  by_cases numeral : IsNumeral (cs.takeWhile isDigit)
  · refine .inr ⟨_, (List.takeWhile_prefix isDigit).isInfix, digit, fun short => bad ⟨numeral, short⟩⟩
  · rw [IsNumeral, not_and, not_forall] at numeral
    obtain ⟨c, hc⟩ := numeral some
    obtain ⟨hmem, hnone⟩ := Classical.not_imp.1 hc
    exact .inl ⟨c, List.takeWhile_subset _ hmem, digit c hmem, by simpa using hnone⟩

theorem exists_head_of_takeWhile {cs : List Char} (some : cs.takeWhile isDigit ≠ []) :
    ∃ c rest, cs = c :: rest ∧ isDigit c := by
  cases cs with
  | nil => exact absurd rfl some
  | cons c rest =>
    refine ⟨c, rest, rfl, ?_⟩
    by_contra hc
    exact some (List.takeWhile_cons_of_neg hc)

theorem Misnumbered.exists_head {cs : List Char} (h : Misnumbered cs) :
    ∃ c rest, cs = c :: rest ∧ isDigit c :=
  exists_head_of_takeWhile h.1

/-! ### The digits of a number -/

theorem foldl_append?_of_isDigit (h : ∀ c ∈ digits, c.isDigit) (n : Nat) :
    digits.foldl append? (some n) = some (Nat.ofDigitChars 10 digits n) := by
  induction digits generalizing n with
  | nil => rfl
  | cons c digits ih =>
    obtain ⟨hc, hdigits⟩ := List.forall_mem_cons.1 h
    rw [List.foldl_cons, Nat.ofDigitChars_cons, ← ih hdigits]
    simp [append?, decimalValue?_of_isDigit_ascii hc]

theorem value_of_isDigit (hne : digits ≠ []) (h : ∀ c ∈ digits, c.isDigit) :
    value digits = Nat.ofDigitChars 10 digits 0 := by
  rw [value, decimal?_eq_foldl hne, foldl_append?_of_isDigit h, Option.getD_some]

theorem isNumeral_toDigits (n : Nat) : IsNumeral (Nat.toDigits 10 n) :=
  ⟨Nat.toDigits_ne_nil, fun c hc => by
    rw [decimalValue?_of_isDigit_ascii (Nat.isDigit_of_mem_toDigits (by decide) (by decide) hc)]; rfl⟩

theorem value_toDigits (n : Nat) : value (Nat.toDigits 10 n) = n := by
  have ascii : ∀ c ∈ Nat.toDigits 10 n, c.isDigit := fun c hc =>
    Nat.isDigit_of_mem_toDigits (by decide) (by decide) hc
  rw [value_of_isDigit Nat.toDigits_ne_nil ascii, Nat.ofDigitChars_toDigits (by decide) (by decide)]

/-! ### How long numbers are -/

theorem decimalValue?_lt {d : Nat} (h : decimalValue? c = some d) : d < 10 := by
  rw [decimalValue?] at h
  split at h
  · split at h
    · rename_i digit
      simp only [Char.isDigit, Bool.and_eq_true, decide_eq_true_eq] at digit
      have high : c.toNat ≤ 57 := UInt32.le_iff_toNat_le.1 digit.2
      obtain rfl := Option.some.inj h
      exact Nat.lt_of_le_of_lt (Nat.sub_le_sub_right high '0'.toNat) (by decide)
    · cases h
  · obtain ⟨range, -, rfl⟩ := Option.map_eq_some_iff.1 h
    exact Nat.mod_lt _ (by decide)

theorem foldl_append?_lt {n m : Nat} (h : digits.foldl append? (some n) = some m) :
    m < (n + 1) * 10 ^ digits.length := by
  induction digits generalizing n with
  | nil =>
    obtain rfl := Option.some.inj h
    simp
  | cons c digits ih =>
    rw [List.foldl_cons] at h
    cases hc : decimalValue? c with
    | none =>
      rw [show append? (some n) c = none by simp [append?, hc], foldl_append?_none] at h
      cases h
    | some d =>
      rw [show append? (some n) c = some (10 * n + d) by simp [append?, hc]] at h
      have next : 10 * n + d + 1 ≤ (n + 1) * 10 := by
        have := decimalValue?_lt hc
        omega
      calc m < (10 * n + d + 1) * 10 ^ digits.length := ih h
        _ ≤ (n + 1) * 10 * 10 ^ digits.length := Nat.mul_le_mul_right _ next
        _ = (n + 1) * 10 ^ (c :: digits).length := by
          rw [List.length_cons, Nat.pow_succ, Nat.mul_assoc, Nat.mul_comm 10]

theorem IsNumeral.value_lt (numeral : IsNumeral digits) : value digits < 10 ^ digits.length := by
  have h := decimal?_eq_some_value numeral
  rw [decimal?_eq_foldl numeral.1] at h
  simpa using foldl_append?_lt h

theorem isWritable_iff {n : Nat} : isWritable n ↔ Short (Nat.toDigits 10 n) := by
  rw [isWritable, decide_eq_true_eq, Int.natAbs_natCast, Short]

theorem isWritable_iff_lt {n : Nat} : isWritable n ↔ n < 10 ^ digitLimit := by
  rw [isWritable_iff, Short, Nat.length_toDigits_le_iff (by decide) (by decide)]

/-- What is read can be written. -/
theorem IsNumeral.isWritable (numeral : IsNumeral digits) (short : Short digits) :
    isWritable (value digits) :=
  isWritable_iff_lt.2 (Nat.lt_of_lt_of_le numeral.value_lt (Nat.pow_le_pow_right (by decide) short))

/-! ### Zeros in front -/

end VariantChess.Text
