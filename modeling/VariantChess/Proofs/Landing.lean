import Mathlib.Order.Bounds.Basic
import Mathlib.Tactic.Linarith
import VariantChess.Proofs.Board.Cells
import VariantChess.Proofs.Walk

/-!
# Where walks land

A walk goes from square to square and keeps in mind only whether a locust has leapt. Where it lands can
also be said of each square by itself, by what stands on the way there (`Leg.Lands`): a locust leaps at
the first step that it accepts and at which a piece stands, and a walk that does not leap ends at the
first piece, or at the first one behind the leap. `Walked` ties the two together while the walk goes on,
and the steps at which it lands are those that it collects, in their order (`reach_exact`).
-/

namespace VariantChess

/-! ### The squares ahead -/

/-- The square `k` steps away. -/
def Square.ahead (s : Square) (v : Step) (k : Nat) : Square := ⟨s.x + k * v.dx, s.y + k * v.dy⟩

theorem Square.ahead_zero (s : Square) (v : Step) : s.ahead v 0 = s := by
  simp [ahead]

theorem Square.shift_ahead (s : Square) (v : Step) (k : Nat) : (s.ahead v k).shift v = s.ahead v (k + 1) := by
  simp only [shift, ahead, Nat.cast_add, Nat.cast_one, add_mul, one_mul, add_assoc]

variable {b : Board} {s : Square} {v : Step} {color : Color} {k n : Nat}

/-- A step that leads along a line of `length` places cannot be repeated on it more often than that. -/
theorem le_of_line {a d length : Int} (moving : d ≠ 0) (hk : 1 ≤ k)
    (first : 0 ≤ a + (1 : Nat) * d ∧ a + (1 : Nat) * d < length)
    (last : 0 ≤ a + k * d ∧ a + k * d < length) : (k : Int) ≤ length := by
  obtain ⟨k, rfl⟩ := Nat.exists_eq_add_of_le' hk
  push_cast at *
  rcases lt_or_gt_of_ne moving with back | forth
  · nlinarith
  · nlinarith

/-- No walk that moves at all stays on the board for more steps than that is long. -/
theorem Board.le_extent (moving : v ≠ ⟨0, 0⟩) (inside : ∀ j, 1 ≤ j → j ≤ k → b.contains (s.ahead v j)) :
    k ≤ b.extent := by
  by_cases hk : 1 ≤ k
  · have first := contains_iff.1 (inside 1 le_rfl hk)
    have last := contains_iff.1 (inside k hk le_rfl)
    simp only [Square.ahead] at first last
    by_cases hx : v.dx = 0
    · have hy : v.dy ≠ 0 := by
        rintro hy
        exact moving (by cases v; simp_all)
      have := le_of_line hy hk ⟨first.2.2.1, first.2.2.2⟩ ⟨last.2.2.1, last.2.2.2⟩
      simp only [extent]
      omega
    · have := le_of_line hx hk ⟨first.1, first.2.1⟩ ⟨last.1, last.2.1⟩
      simp only [extent]
      omega
  · omega

namespace Movement.Leg

variable {leg : Leg} {leapt : Bool}

/-! ### Landing, square by square -/

/-- The steps that the leg accepts and at which a piece stands. -/
def Met (leg : Leg) (b : Board) (s : Square) (v : Step) : Set Nat :=
  {k | 1 ≤ k ∧ leg.accepts k ∧ b.cell (s.ahead v k) ≠ none}

/-- The piece at this step would end a walk: it is not leapt over, and for a locust it stands behind
its leap. -/
structure Stops (leg : Leg) (b : Board) (s : Square) (v : Step) (k : Nat) : Prop where
  occupied : b.cell (s.ahead v k) ≠ none
  grounded : ¬ leg.leaper
  behind : leg.locust → ∃ p, IsLeast (leg.Met b s v) p ∧ p < k

/-- The walk lands at this step. -/
structure Lands (leg : Leg) (b : Board) (color : Color) (s : Square) (v : Step) (k : Nat) : Prop where
  pos : 1 ≤ k
  inside : ∀ j, 1 ≤ j → j ≤ k → b.contains (s.ahead v j)
  accepted : leg.accepts k
  clear : ∀ j, 1 ≤ j → j < k → ¬ leg.Stops b s v j
  /-- On an empty square, unless the leg only captures; a locust must not have leapt. -/
  empty : b.cell (s.ahead v k) = none →
    ¬ leg.captureOnly ∧ (leg.locust → ∀ p, IsLeast (leg.Met b s v) p → k < p)
  /-- On an enemy, unless the leg never captures; a locust must have leapt. -/
  taken : ∀ piece, b.cell (s.ahead v k) = some piece → ¬ leg.noCapture ∧ piece.color ≠ color ∧
    (leg.locust → ∃ p, IsLeast (leg.Met b s v) p ∧ p < k)

/-! ### What a walk does with a square -/

/-- A locust has yet to leap. -/
def leaping (leg : Leg) (leapt : Bool) : Bool := leg.locust && !leapt

/-- A square with this content is collected. -/
def collects (leg : Leg) (color : Color) (k : Nat) (leapt : Bool) : Cell → Bool
  | none => leg.accepts k && !(leg.captureOnly || leg.locust && leapt)
  | some piece => leg.accepts k && !(leg.noCapture || piece.color == color || leg.leaping leapt)

/-- The walk ends at a square with this content. -/
def ends (leg : Leg) (leapt : Bool) (cell : Cell) : Bool :=
  cell.isSome && !(leg.leaper || leg.leaping leapt)

/-- Whether it is taken for leapt behind a square with this content. -/
def leaps (leg : Leg) (color : Color) (k : Nat) (leapt : Bool) : Cell → Bool
  | none => leapt
  | some piece =>
    leapt || leg.accepts k && (leg.noCapture || piece.color == color || leg.leaping leapt)

theorem walk_cons (k : Nat) (leapt : Bool) (d : Square) (ahead : List Square) :
    leg.walk b color k leapt (d :: ahead) =
      (if leg.collects color k leapt (b.cell d) then [d] else []) ++
        if leg.ends leapt (b.cell d) then []
        else leg.walk b color (k + 1) (leg.leaps color k leapt (b.cell d)) ahead := by
  rw [walk]
  split
  · rename_i empty
    simp only [empty, collects, ends, leaps]
    split <;> simp
  · rename_i piece occupied
    simp only [occupied, collects, ends, leaps, leaping]
    by_cases accepted : leg.accepts k
    · by_cases blocked : leg.noCapture || piece.color == color || leg.locust && !leapt <;>
        by_cases passed : leg.leaper || leg.locust && !leapt <;> simp [accepted, blocked, passed]
    · by_cases passed : leg.leaper || leg.locust && !leapt <;> simp [accepted, passed]

/-- A leg that collects and remembers the same as another one, and ends nowhere else, misses nothing. -/
theorem walk_sublist {leg' : Leg}
    (collects : ∀ k leapt cell, leg'.collects color k leapt cell = leg.collects color k leapt cell)
    (leaps : ∀ k leapt cell, leg'.leaps color k leapt cell = leg.leaps color k leapt cell)
    (ends : ∀ leapt cell, leg'.ends leapt cell → leg.ends leapt cell) (k : Nat) (leapt : Bool)
    (ahead : List Square) :
    (leg.walk b color k leapt ahead).Sublist (leg'.walk b color k leapt ahead) := by
  induction ahead generalizing k leapt with
  | nil => exact .slnil
  | cons d ahead ih =>
    rw [walk_cons, walk_cons, collects, leaps]
    refine .append (.refl _) ?_
    split
    · exact List.nil_sublist _
    · rename_i onward
      rw [if_neg (mt (ends leapt _) onward)]
      exact ih _ _

theorem walk_congr {leg' : Leg}
    (collects : ∀ k leapt cell, leg'.collects color k leapt cell = leg.collects color k leapt cell)
    (leaps : ∀ k leapt cell, leg'.leaps color k leapt cell = leg.leaps color k leapt cell)
    (ends : ∀ leapt cell, leg'.ends leapt cell = leg.ends leapt cell) (k : Nat) (leapt : Bool)
    (ahead : List Square) :
    leg'.walk b color k leapt ahead = leg.walk b color k leapt ahead := by
  have one : (leg'.walk b color k leapt ahead).Sublist (leg.walk b color k leapt ahead) :=
    walk_sublist (fun k leapt cell => (collects k leapt cell).symm)
      (fun k leapt cell => (leaps k leapt cell).symm) (fun leapt cell h => ends leapt cell ▸ h) k leapt ahead
  have other : (leg.walk b color k leapt ahead).Sublist (leg'.walk b color k leapt ahead) :=
    walk_sublist collects leaps (fun leapt cell h => ends leapt cell ▸ h) k leapt ahead
  exact one.antisymm other

/-! ### The leap of a locust -/

theorem exists_isLeast_lt_iff {p : Set Nat} : (∃ a, IsLeast p a ∧ a < n) ↔ ∃ a ∈ p, a < n := by
  classical
  constructor
  · rintro ⟨a, least, h⟩
    exact ⟨a, least.1, h⟩
  · rintro ⟨a, ha, h⟩
    have least := Nat.isLeast_find ⟨a, ha⟩
    exact ⟨_, least, (least.2 ha).trans_lt h⟩

theorem forall_isLeast_lt_iff {p : Set Nat} : (∀ a, IsLeast p a → n < a) ↔ ∀ a ∈ p, n < a := by
  classical
  constructor
  · intro h a ha
    have least := Nat.isLeast_find ⟨a, ha⟩
    exact (h _ least).trans_le (least.2 ha)
  · intro h a least
    exact h a least.1

/-! ### The walk under way -/

/-- The walk has not ended at the first `k` squares, and it knows whether it has leapt on them. -/
structure Walked (leg : Leg) (b : Board) (s : Square) (v : Step) (k : Nat) (leapt : Bool) : Prop where
  inside : ∀ j, 1 ≤ j → j ≤ k → b.contains (s.ahead v j)
  clear : ∀ j, 1 ≤ j → j ≤ k → ¬ leg.Stops b s v j
  knows : leg.locust → (leapt ↔ ∃ j ∈ leg.Met b s v, j ≤ k)

namespace Walked

theorem start (leg : Leg) (b : Board) (s : Square) (v : Step) : leg.Walked b s v 0 false where
  inside j hj hj' := by omega
  clear j hj hj' := by omega
  knows _ := by
    refine iff_of_false Bool.false_ne_true ?_
    rintro ⟨j, met, hj⟩
    have := met.1
    omega

variable (walked : leg.Walked b s v k leapt)
include walked

/-- A locust has leapt if the first step at which it would leap is behind it. -/
theorem leapt_iff (locust : leg.locust) :
    leapt ↔ ∃ p, IsLeast (leg.Met b s v) p ∧ p < k + 1 := by
  rw [walked.knows locust, exists_isLeast_lt_iff]
  simp only [Nat.lt_succ_iff]

theorem ends_iff : leg.ends leapt (b.cell (s.ahead v (k + 1))) ↔ leg.Stops b s v (k + 1) := by
  have occupied : (b.cell (s.ahead v (k + 1))).isSome ↔ b.cell (s.ahead v (k + 1)) ≠ none :=
    Option.isSome_iff_ne_none
  have behind : ¬ leg.leaping leapt ↔
      (leg.locust → ∃ p, IsLeast (leg.Met b s v) p ∧ p < k + 1) := by
    rw [leaping, Bool.and_eq_true, not_and, Bool.not_eq_true', Bool.not_eq_false]
    exact forall_congr' walked.leapt_iff
  rw [ends, Bool.and_eq_true, occupied, Bool.not_eq_true', Bool.or_eq_false_iff, ← Bool.not_eq_true,
    ← Bool.not_eq_true, behind]
  constructor
  · rintro ⟨occupied, grounded, behind⟩
    exact ⟨occupied, grounded, behind⟩
  · rintro ⟨occupied, grounded, behind⟩
    exact ⟨occupied, grounded, behind⟩

theorem inside_next (next : b.contains (s.ahead v (k + 1))) :
    ∀ j, 1 ≤ j → j ≤ k + 1 → b.contains (s.ahead v j) := by
  intro j hj hjk
  rcases Nat.lt_succ_iff_lt_or_eq.1 (Nat.lt_succ_of_le hjk) with h | rfl
  · exact walked.inside j hj (Nat.le_of_lt_succ h)
  · exact next

/-- An empty square is before the leap or behind it. -/
theorem unleapt_iff (locust : leg.locust) (empty : b.cell (s.ahead v (k + 1)) = none) :
    ¬ leapt ↔ ∀ p, IsLeast (leg.Met b s v) p → k + 1 < p := by
  rw [walked.knows locust, forall_isLeast_lt_iff]
  constructor
  · intro none j met
    have apart : j ≠ k + 1 := by
      rintro rfl
      exact met.2.2 empty
    by_contra hj
    exact none ⟨j, met, by omega⟩
  · rintro ahead ⟨j, met, hj⟩
    have := ahead j met
    omega

/-- What the walk knows decides whether it lands at the next step. -/
theorem collects_iff (next : b.contains (s.ahead v (k + 1))) :
    leg.collects color (k + 1) leapt (b.cell (s.ahead v (k + 1))) ↔ leg.Lands b color s v (k + 1) := by
  have way : leg.Lands b color s v (k + 1) ↔ leg.accepts (k + 1 : Nat) ∧
      (b.cell (s.ahead v (k + 1)) = none →
        ¬ leg.captureOnly ∧ (leg.locust → ∀ p, IsLeast (leg.Met b s v) p → k + 1 < p)) ∧
      ∀ piece, b.cell (s.ahead v (k + 1)) = some piece → ¬ leg.noCapture ∧ piece.color ≠ color ∧
        (leg.locust → ∃ p, IsLeast (leg.Met b s v) p ∧ p < k + 1) := by
    constructor
    · intro lands
      exact ⟨lands.accepted, lands.empty, lands.taken⟩
    · rintro ⟨accepted, empty, taken⟩
      exact ⟨k.succ_pos, walked.inside_next next, accepted,
        fun j hj hjk => walked.clear j hj (Nat.le_of_lt_succ hjk), empty, taken⟩
  rw [way]
  cases hcell : b.cell (s.ahead v (k + 1)) with
  | none =>
    have unleapt := forall_congr' fun locust => walked.unleapt_iff locust hcell
    rw [← unleapt, collects]
    cases leg.locust <;> simp
  | some piece =>
    have behind := forall_congr' walked.leapt_iff
    rw [← behind, collects, leaping]
    cases leg.locust <;> simp [and_assoc]

/-- A walk that does not end at the next square knows behind it whether it has leapt. -/
theorem next (next : b.contains (s.ahead v (k + 1))) (onward : ¬ leg.Stops b s v (k + 1)) :
    leg.Walked b s v (k + 1) (leg.leaps color (k + 1) leapt (b.cell (s.ahead v (k + 1)))) where
  inside := walked.inside_next next
  clear j hj hjk := by
    rcases Nat.lt_succ_iff_lt_or_eq.1 (Nat.lt_succ_of_le hjk) with h | rfl
    · exact walked.clear j hj (Nat.le_of_lt_succ h)
    · exact onward
  knows locust := by
    have split : (∃ j ∈ leg.Met b s v, j ≤ k + 1) ↔
        (∃ j ∈ leg.Met b s v, j ≤ k) ∨ k + 1 ∈ leg.Met b s v := by
      simp only [Nat.le_succ_iff, and_or_left, exists_or, exists_eq_right]
    rw [split, ← walked.knows locust]
    cases hcell : b.cell (s.ahead v (k + 1)) with
    | none => simp [leaps, Met, hcell]
    | some piece =>
      -- a locust that has yet to leap does so here, whatever the piece
      cases leapt <;> simp [leaps, leaping, locust, Met, hcell]

end Walked

/-! ### All squares ahead -/

/-- The steps at which the walk lands, behind the first `k` and up to the last one, in their order. -/
structure LandsAt (leg : Leg) (b : Board) (color : Color) (s : Square) (v : Step) (k last : Nat)
    (ks : List Nat) : Prop where
  sorted : ks.Pairwise (· < ·)
  mem : ∀ j, j ∈ ks ↔ k < j ∧ j ≤ last ∧ leg.Lands b color s v j

namespace LandsAt
variable {last : Nat} {ks : List Nat}

theorem nil (nowhere : ∀ j, k < j → j ≤ last → ¬ leg.Lands b color s v j) :
    leg.LandsAt b color s v k last [] where
  sorted := .nil
  mem j := by
    refine iff_of_false List.not_mem_nil ?_
    rintro ⟨hj, hlast, lands⟩
    exact nowhere j hj hlast lands

theorem cons (behind : leg.LandsAt b color s v (k + 1) last ks) (hk : k < last)
    (lands : leg.Lands b color s v (k + 1)) : leg.LandsAt b color s v k last ((k + 1) :: ks) where
  sorted := List.pairwise_cons.2 ⟨fun j hj => ((behind.mem j).1 hj).1, behind.sorted⟩
  mem j := by
    rw [List.mem_cons, behind.mem]
    constructor
    · rintro (rfl | ⟨hj, hlast, landsAt⟩)
      · exact ⟨k.lt_succ_self, hk, lands⟩
      · exact ⟨by omega, hlast, landsAt⟩
    · rintro ⟨hj, hlast, landsAt⟩
      by_cases h : j = k + 1
      · exact .inl h
      · exact .inr ⟨by omega, hlast, landsAt⟩

theorem skip (behind : leg.LandsAt b color s v (k + 1) last ks)
    (passes : ¬ leg.Lands b color s v (k + 1)) : leg.LandsAt b color s v k last ks where
  sorted := behind.sorted
  mem j := by
    rw [behind.mem]
    constructor
    · rintro ⟨hj, hlast, landsAt⟩
      exact ⟨by omega, hlast, landsAt⟩
    · rintro ⟨hj, hlast, landsAt⟩
      have apart : j ≠ k + 1 := by
        rintro rfl
        exact passes landsAt
      exact ⟨by omega, hlast, landsAt⟩

end LandsAt

/-- What a walk collects of the squares ahead are those at which it lands, in their order. -/
theorem Walked.walk_ray (walked : leg.Walked b s v k leapt) (color : Color) (n : Nat) :
    ∃ ks : List Nat, leg.walk b color (k + 1) leapt (b.ray v n (s.ahead v k)) = ks.map (s.ahead v) ∧
      leg.LandsAt b color s v k (k + n) ks := by
  induction n generalizing k leapt with
  | zero =>
    refine ⟨[], rfl, .nil fun j hj hlast _ => ?_⟩
    omega
  | succ n ih =>
    rw [Board.ray, Square.shift_ahead]
    have shift : k + 1 + n = k + (n + 1) := by omega
    by_cases next : b.contains (s.ahead v (k + 1))
    · -- what is collected behind the next square, if the walk does not end there
      obtain ⟨ks, hks, behind⟩ : ∃ ks : List Nat,
          (if leg.ends leapt (b.cell (s.ahead v (k + 1))) then []
            else leg.walk b color (k + 2) (leg.leaps color (k + 1) leapt (b.cell (s.ahead v (k + 1))))
              (b.ray v n (s.ahead v (k + 1)))) = ks.map (s.ahead v) ∧
          leg.LandsAt b color s v (k + 1) (k + (n + 1)) ks := by
        split
        · rename_i ends
          refine ⟨[], rfl, .nil fun j hj _ lands => ?_⟩
          exact lands.clear (k + 1) k.succ_pos hj (walked.ends_iff.1 ends)
        · rename_i onward
          rw [← shift]
          exact ih (walked.next next (mt walked.ends_iff.2 onward))
      rw [if_pos next, walk_cons, hks]
      by_cases lands : leg.Lands b color s v (k + 1)
      · refine ⟨(k + 1) :: ks, ?_, behind.cons (by omega) lands⟩
        rw [if_pos ((walked.collects_iff next).2 lands)]
        rfl
      · refine ⟨ks, ?_, behind.skip lands⟩
        rw [if_neg (mt (walked.collects_iff next).1 lands)]
        rfl
    · refine ⟨[], ?_, .nil fun j hj _ lands => ?_⟩
      · rw [if_neg next]
        rfl
      · exact next (lands.inside (k + 1) k.succ_pos hj)

/-! ### The farthest step -/

theorem le_of_maxSteps? {distance : Distance} {j m : Int} (accepted : distance.accepts j)
    (farthest : distance.maxSteps? = some m) : j ≤ m := by
  cases distance with
  | any => cases farthest
  | exact n =>
    obtain rfl : n = m := Option.some.inj farthest
    exact (beq_iff_eq.1 accepted).le
  | range low high =>
    obtain rfl : high = m := Option.some.inj farthest
    simp only [Distance.accepts, Bool.and_eq_true, decide_eq_true_eq] at accepted
    exact accepted.2
  | hippogonal =>
    obtain rfl : 1 = m := Option.some.inj farthest
    exact (beq_iff_eq.1 accepted).le

/-- No leg accepts a step behind its limit. -/
theorem le_of_accepts {j m : Int} (accepted : leg.accepts j) (farthest : leg.maxSteps? = some m) : j ≤ m := by
  rw [maxSteps?] at farthest
  split at farthest
  · cases farthest
  · rename_i noRide
    have bare : leg.ride = none := by simpa using noRide
    rw [accepts, bare, Option.any_none, Bool.or_false] at accepted
    exact le_of_maxSteps? accepted farthest

/-- A walk is not cut off in front of a step at which it lands. -/
theorem Lands.le_span (lands : leg.Lands b color s v k) (moving : v ≠ ⟨0, 0⟩) : k ≤ leg.span b := by
  have onBoard : k ≤ b.extent := Board.le_extent moving lands.inside
  rw [span]
  split
  · rename_i m farthest
    have reached : (k : Int) ≤ m := le_of_accepts lands.accepted farthest
    omega
  · omega

/-- A walk along a step that moves collects the squares at which it lands, the nearest first. -/
theorem reach_exact (leg : Leg) (b : Board) (color : Color) (s : Square) {v : Step}
    (moving : v ≠ ⟨0, 0⟩) :
    ∃ ks : List Nat, leg.reach b color s v = ks.map (s.ahead v) ∧ ks.Pairwise (· < ·) ∧
      ∀ k, k ∈ ks ↔ leg.Lands b color s v k := by
  obtain ⟨ks, hks, landing⟩ := (Walked.start leg b s v).walk_ray color (leg.span b)
  rw [Square.ahead_zero] at hks
  refine ⟨ks, hks, landing.sorted, fun k => ?_⟩
  rw [landing.mem, Nat.zero_add]
  exact ⟨fun h => h.2.2, fun lands => ⟨lands.pos, lands.le_span moving, lands⟩⟩

/-- A locust that accepts two steps and more passes the piece next to it, leaps over the second one and
takes the third one; behind that it goes nowhere. -/
theorem reach_exact_locust :
    let leg : Leg := { distance := .range 2 9, locust := true }
    let b := Board.ofRows [[none, some ⟨"a", .black, false⟩, none, some ⟨"a", .white, false⟩, none,
      some ⟨"a", .black, false⟩, some ⟨"a", .black, false⟩]]
    (⟨1, 0⟩ : Step) ≠ ⟨0, 0⟩ ∧ leg.reach b .white ⟨0, 0⟩ ⟨1, 0⟩ = [⟨2, 0⟩, ⟨5, 0⟩] ∧
      ∃ ks : List Nat, leg.reach b .white ⟨0, 0⟩ ⟨1, 0⟩ = ks.map (Square.ahead ⟨0, 0⟩ ⟨1, 0⟩) ∧
        ks.Pairwise (· < ·) ∧ ∀ k, k ∈ ks ↔ leg.Lands b .white ⟨0, 0⟩ ⟨1, 0⟩ k := by
  intro leg b
  exact ⟨by decide, by decide, reach_exact leg b .white ⟨0, 0⟩ (by decide)⟩

end Movement.Leg

end VariantChess
