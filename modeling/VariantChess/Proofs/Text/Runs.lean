import Mathlib.Data.List.Range
import VariantChess.Text.Character

/-!
# Runs of code points

A run is an arithmetic progression of code points. What holds on a whole run can often be told from
its ends and its step: that it lies on another run (`Run.within`), or that it misses it (`Run.misses`).
So a table of runs is checked row by row; only a row for which that fails is checked point by point
(`throughout`).
-/

namespace VariantChess.Text

/-- The progression `first, first + step, …, last`. -/
structure Run where
  first : Nat
  last : Nat
  step : Nat

namespace Run

variable {r r' : Run} {n : Nat}

/-- The code point lies on the run. -/
def Has (r : Run) (n : Nat) : Prop := onRun r.first r.last r.step n

instance (r : Run) : DecidablePred r.Has := fun _ => inferInstanceAs (Decidable (_ = true))

def single (n : Nat) : Run := ⟨n, n, 1⟩

theorem has_iff : r.Has n ↔ r.first ≤ n ∧ n ≤ r.last ∧ r.step ∣ n - r.first := by
  simp [Has, onRun, Nat.dvd_iff_mod_eq_zero, and_assoc]

@[simp] theorem has_single_iff {m : Nat} : (single m).Has n ↔ n = m := by
  simp only [has_iff, single, Nat.one_dvd, and_true]
  omega

/-! ### Two runs -/

/-- The run lies on the other one, as its ends and its step show. -/
def within (r r' : Run) : Bool :=
  Nat.ble r.last r'.last && Nat.ble r'.first r.first && Nat.beq ((r.first - r'.first) % r'.step) 0 &&
    (Nat.beq r.first r.last || Nat.beq (r.step % r'.step) 0)

theorem has_of_within (h : r.within r') (hn : r.Has n) : r'.Has n := by
  simp only [within, Bool.and_eq_true, Bool.or_eq_true, Nat.ble_eq, Nat.beq_eq] at h
  obtain ⟨⟨⟨hlast, hfirst⟩, hstart⟩, hstep⟩ := h
  obtain ⟨hle, hge, hdvd⟩ := has_iff.1 hn
  have start : r'.step ∣ r.first - r'.first := Nat.dvd_of_mod_eq_zero hstart
  have rest : r'.step ∣ n - r.first := by
    rcases hstep with single | hstep
    · have same : n - r.first = 0 := by omega
      rw [same]
      exact Nat.dvd_zero _
    · exact Nat.dvd_trans (Nat.dvd_of_mod_eq_zero hstep) hdvd
  have sum : n - r'.first = (n - r.first) + (r.first - r'.first) := by omega
  exact has_iff.2 ⟨by omega, by omega, sum ▸ Nat.dvd_add rest start⟩

/-- The runs have no point in common: they lie apart, or they take the odd and the even places. -/
def misses (r r' : Run) : Bool :=
  Nat.blt r'.last r.first || Nat.blt r.last r'.first ||
    (Nat.beq (r.step % 2) 0 && Nat.beq (r'.step % 2) 0 && Nat.beq ((r.first + r'.first) % 2) 1)

theorem not_has_of_misses (h : r.misses r') (hn : r.Has n) : ¬ r'.Has n := by
  intro hn'
  simp only [misses, Bool.and_eq_true, Bool.or_eq_true, Nat.blt_eq, Nat.beq_eq] at h
  obtain ⟨hle, hge, hdvd⟩ := has_iff.1 hn
  obtain ⟨hle', hge', hdvd'⟩ := has_iff.1 hn'
  rcases h with (h | h) | ⟨⟨heven, heven'⟩, hodd⟩
  · omega
  · omega
  · have even : 2 ∣ n - r.first := Nat.dvd_trans (Nat.dvd_of_mod_eq_zero heven) hdvd
    have even' : 2 ∣ n - r'.first := Nat.dvd_trans (Nat.dvd_of_mod_eq_zero heven') hdvd'
    omega

/-! ### Point by point -/

def points (r : Run) : List Nat := List.range' r.first ((r.last - r.first) / r.step + 1) r.step

theorem mem_points (h : r.Has n) : n ∈ r.points := by
  obtain ⟨hle, hge, k, hk⟩ := has_iff.1 h
  refine List.mem_range'.2 ⟨(n - r.first) / r.step, ?_, ?_⟩
  · exact Nat.lt_succ_of_le (Nat.div_le_div_right (by omega))
  · rw [Nat.mul_div_cancel' (hk ▸ Nat.dvd_mul_right _ _)]
    omega

/-- The check holds on the run as a whole, or else on each of its points. -/
def throughout (check : Run → Bool) (r : Run) : Bool :=
  check r || r.points.all fun n => check (single n)

theorem exists_run_of_throughout {check : Run → Bool} (h : r.throughout check) (hn : r.Has n) :
    ∃ r', check r' ∧ r'.Has n := by
  rcases Bool.or_eq_true_iff.1 h with h | h
  · exact ⟨r, h, hn⟩
  · exact ⟨single n, List.all_eq_true.1 h n (mem_points hn), has_single_iff.2 rfl⟩

end Run

end VariantChess.Text
