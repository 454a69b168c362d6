import Mathlib.Tactic.Ring
import VariantChess.Decimal.Double

/-!
# Integers in double precision

The largest finite number is `2 ^ 1024 - 2 ^ 971`. An integer is nearest to it, or to a smaller one, as
long as it stays below the middle between that number and the next one that there would be, and the
middle itself goes up. So the integers from `2 ^ 1024 - 2 ^ 970` on are too large (`ofInt?_eq_none_iff`).
-/

namespace VariantChess

theorem div_le_roundHalfEven (n d : Nat) : n / d ≤ roundHalfEven n d := by
  rw [roundHalfEven]
  split <;> omega

theorem roundHalfEven_le (n d : Nat) : roundHalfEven n d ≤ n / d + 1 := by
  rw [roundHalfEven]
  split <;> omega

/-- An even number is reached from half a unit below it. -/
theorem le_roundHalfEven_iff {n d : Nat} (a : Nat) (hd : 0 < d) :
    2 * a + 2 ≤ roundHalfEven n d ↔ (4 * a + 3) * d ≤ 2 * n := by
  have parts := Nat.div_add_mod n d
  have small := Nat.mod_lt n hd
  rw [roundHalfEven]
  generalize n / d = q at parts ⊢
  generalize n % d = r at parts small ⊢
  rcases Nat.lt_trichotomy q (2 * a + 1) with below | rfl | above
  · have product : d * (q + 1) ≤ d * (2 * a + 1) := Nat.mul_le_mul_left d below
    have expanded : (4 * a + 3) * d = 2 * (d * (2 * a + 1)) + d := by ring
    rw [Nat.mul_add] at product
    constructor
    · intro h
      split at h <;> omega
    · intro h
      omega
  · have expanded : (4 * a + 3) * d = 2 * (d * (2 * a + 1)) + d := by ring
    have odd : (2 * a + 1) % 2 = 1 := by omega
    simp only [odd, beq_self_eq_true, Bool.and_true, Bool.or_eq_true, decide_eq_true_eq, beq_iff_eq]
    constructor
    · intro h
      split at h <;> omega
    · intro h
      rw [if_pos (by omega)]
  · have product : d * (2 * a + 2) ≤ d * q := Nat.mul_le_mul_left d above
    have expanded : (4 * a + 3) * d + d = 2 * (d * (2 * a + 2)) := by ring
    constructor
    · intro h
      omega
    · intro h
      split <;> omega

namespace Double

/-- The units of a number count `2 ^ 1074` to one; the exponent stays a variable, so that nothing evaluates
the power. -/
theorem exists_denominator_eq : ∃ k, k = 1074 ∧ denominator = 2 ^ k := by
  obtain ⟨k, hk⟩ : ∃ k, 1074 = k := ⟨_, rfl⟩
  refine ⟨k, hk.symm, ?_⟩
  unfold denominator
  rw [hk]
  exact Nat.pow_eq

/-- The place of the last unit of an integer between two powers of two, and the count of these units. -/
theorem nearestMagnitude_one {n e : Nat} (lower : 2 ^ e ≤ n) (upper : n < 2 ^ (e + 1)) :
    nearestMagnitude n 1 =
      (e + 1022) * 2 ^ 52 + roundHalfEven (n * denominator) (2 ^ (e + 1022)) := by
  obtain ⟨k, hk, scale⟩ := exists_denominator_eq
  have positive : n * 2 ^ k ≠ 0 :=
    Nat.ne_of_gt (Nat.mul_pos (Nat.lt_of_lt_of_le (Nat.two_pow_pos e) lower) (Nat.two_pow_pos k))
  have log : (n * 2 ^ k).log2 = e + k := by
    rw [Nat.log2_eq_iff positive, Nat.add_right_comm, Nat.pow_add, Nat.pow_add]
    exact ⟨Nat.mul_le_mul_right _ lower, Nat.mul_lt_mul_of_pos_right upper (Nat.two_pow_pos k)⟩
  have place : e + k + 1 - 53 = e + 1022 := by omega
  rw [nearestMagnitude, scale, Nat.div_one, log, place, Nat.one_mul]
  rfl

/-- An integer with `e` binary places behind the first is too large if there are more than 1023 of them,
and if there are 1023, from the middle between the largest number and the next power of two on. -/
theorem infiniteMagnitude_le_iff {n e j : Nat} (lower : 2 ^ e ≤ n) (upper : n < 2 ^ (e + 1))
    (hj : j = 970) :
    infiniteMagnitude ≤ nearestMagnitude n 1 ↔ 1023 < e ∨ e = 1023 ∧ (2 ^ 54 - 1) * 2 ^ j ≤ n := by
  have infinite : infiniteMagnitude = 2047 * 2 ^ 52 := rfl
  have unit : 0 < 2 ^ (e + 1022) := Nat.two_pow_pos _
  have units : 2 ^ 52 * 2 ^ (e + 1022) = 2 ^ e * denominator := by
    obtain ⟨k, hk, scale⟩ := exists_denominator_eq
    have places : 52 + (e + 1022) = e + k := by omega
    rw [scale, ← Nat.pow_add, ← Nat.pow_add, places]
  have positive : 0 < denominator := by
    obtain ⟨k, -, scale⟩ := exists_denominator_eq
    exact scale ▸ Nat.two_pow_pos k
  rw [nearestMagnitude_one lower upper, infinite]
  generalize 2 ^ (e + 1022) = d at unit units ⊢
  generalize denominator = scale at units positive ⊢
  have above := div_le_roundHalfEven (n * scale) d
  have below := roundHalfEven_le (n * scale) d
  rcases Nat.lt_trichotomy e 1023 with few | last | many
  · -- the count has no more places than a significand
    have count : n * scale / d < 2 ^ 53 := by
      rw [Nat.div_lt_iff_lt_mul unit, Nat.pow_succ', Nat.mul_assoc, units, ← Nat.mul_assoc,
        ← Nat.pow_succ']
      exact Nat.mul_lt_mul_of_pos_right upper positive
    generalize n * scale / d = q at above below count
    generalize roundHalfEven (n * scale) d = rounded at above below ⊢
    omega
  · -- it goes up exactly if the count reaches the next power of two
    have halves : d = 2 ^ j * (2 * scale) := by
      have places : e = 52 + (j + 1) := by omega
      rw [places, Nat.pow_add, Nat.pow_add 2 j 1, Nat.pow_one, Nat.mul_assoc, Nat.mul_assoc] at units
      exact Nat.eq_of_mul_eq_mul_left (Nat.two_pow_pos 52) units
    have reached : 2 * (2 ^ 52 - 1) + 2 ≤ roundHalfEven (n * scale) d ↔ (2 ^ 54 - 1) * 2 ^ j ≤ n := by
      have same : 4 * (2 ^ 52 - 1) + 3 = 2 ^ 54 - 1 := rfl
      rw [le_roundHalfEven_iff _ unit, same, halves, ← Nat.mul_assoc, Nat.mul_left_comm 2 n,
        Nat.mul_le_mul_right_iff (Nat.mul_pos Nat.two_pos positive)]
    rw [← reached]
    generalize roundHalfEven (n * scale) d = rounded
    omega
  · -- the count has all the places of a significand
    have count : 2 ^ 52 ≤ n * scale / d := by
      rw [Nat.le_div_iff_mul_le unit, units]
      exact Nat.mul_le_mul_right _ lower
    generalize n * scale / d = q at above below count
    generalize roundHalfEven (n * scale) d = rounded at above below ⊢
    omega

/-- The integer reaches the middle between the largest number and the next power of two. -/
def Exceeds (n : Int) : Prop := 2 ^ 1024 - 2 ^ 970 ≤ n.natAbs

/-- The integers that are too large are those that reach the middle. -/
theorem ofInt?_eq_none_iff {n : Int} : ofInt? n = none ↔ Exceeds n := by
  unfold Exceeds
  obtain ⟨i, hi⟩ : ∃ i, 1024 = i := ⟨_, rfl⟩
  obtain ⟨j, hj⟩ : ∃ j, 970 = j := ⟨_, rfl⟩
  have infinite : ofInt? n = none ↔ infiniteMagnitude ≤ nearestMagnitude n.natAbs 1 := by
    rw [ofInt?]
    split <;> simp <;> omega
  have places : i = 54 + j := by omega
  have middle : 2 ^ i - 2 ^ j = (2 ^ 54 - 1) * 2 ^ j := by
    rw [places, Nat.pow_add, Nat.sub_mul, Nat.one_mul]
  have positive : 0 < 2 ^ j := Nat.two_pow_pos j
  rw [infinite, hi, hj, middle]
  generalize n.natAbs = m
  rcases Nat.eq_zero_or_pos m with rfl | nonzero
  · have least : nearestMagnitude 0 1 = 0 := by simp [nearestMagnitude, roundHalfEven]
    have some : 0 < infiniteMagnitude := by decide
    rw [least]
    omega
  · have lower := Nat.log2_self_le (Nat.ne_of_gt nonzero)
    have upper : m < 2 ^ (m.log2 + 1) := Nat.lt_log2_self
    generalize m.log2 = e at lower upper
    rw [infiniteMagnitude_le_iff lower upper hj.symm]
    constructor
    · rintro (many | ⟨-, reached⟩)
      · have large : 2 ^ i ≤ 2 ^ e := Nat.pow_le_pow_right Nat.two_pos (by omega)
        rw [← middle]
        omega
      · exact reached
    · intro reached
      rcases Nat.lt_trichotomy e 1023 with few | last | many
      · -- such an integer is less than half of the next power of two
        have small : 2 ^ (e + 1) ≤ 2 ^ (53 + j) := Nat.pow_le_pow_right Nat.two_pos (by omega)
        rw [Nat.pow_add 2 53] at small
        omega
      · exact .inr ⟨last, reached⟩
      · exact .inl many

end Double

end VariantChess
