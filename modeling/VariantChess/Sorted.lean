/-!
# Sorted lists

Insertion into a list in increasing order. `insertDistinct` leaves out an element that is already
there, so a list built by it increases strictly; `insertBehind` keeps equal keys in the order in which
they came.
-/

namespace VariantChess

variable {α : Type}

/-- Puts `a` into its place, unless it is there. -/
def insertDistinct [DecidableEq α] (before : α → α → Bool) (a : α) : List α → List α
  | [] => [a]
  | b :: bs =>
    if a = b then b :: bs
    else if before a b then a :: b :: bs
    else b :: insertDistinct before a bs

/-- The elements of the list in strictly increasing order. -/
def sortDistinct [DecidableEq α] (before : α → α → Bool) (as : List α) : List α :=
  as.foldl (fun sorted a => insertDistinct before a sorted) []

/-- Puts `a` behind everything that it does not precede. -/
def insertBehind (before : α → α → Bool) (a : α) : List α → List α
  | [] => [a]
  | b :: bs => if before a b then a :: b :: bs else b :: insertBehind before a bs

/-- The elements of the list in increasing order; equal ones keep theirs. -/
def sortStable (before : α → α → Bool) (as : List α) : List α :=
  as.foldl (fun sorted a => insertBehind before a sorted) []

end VariantChess
