import VariantChess.Square

/-!
# Distances

How many steps away a destination may lie. A hippogonal distance is a leap of `m` by `n` squares in
any of its eight orientations, which counts as a single step.
-/

namespace VariantChess.Movement

open VariantChess

inductive Distance where
  /-- Any number of steps. -/
  | any
  /-- Exactly `n` steps. -/
  | exact (n : Int)
  /-- From `low` to `high` steps. -/
  | range (low high : Int)
  /-- A leap of `m` by `n` squares. -/
  | hippogonal (m n : Int)
deriving DecidableEq, Repr

namespace Distance

/-- Whether a destination `k` steps away is in reach. -/
def accepts : Distance → Int → Bool
  | any, _ => true
  | exact n, k => k == n
  | range low high, k => low ≤ k && k ≤ high
  | hippogonal _ _, k => k == 1

/-- The largest number of steps in reach, if there is one. -/
def maxSteps? : Distance → Option Int
  | any => none
  | exact n => some n
  | range _ high => some high
  | hippogonal _ _ => some 1

/-- The orientations of a leap, without repetition. -/
def leaps (m n : Int) : List Step :=
  [⟨m, n⟩, ⟨m, -n⟩, ⟨-m, n⟩, ⟨-m, -n⟩, ⟨n, m⟩, ⟨n, -m⟩, ⟨-n, m⟩, ⟨-n, -m⟩].eraseDups

end Distance

end VariantChess.Movement
