/-!
# Lists of fallible steps

A function that may fail is applied to the elements of a list in their order; the first failure is the
failure of the whole.
-/

namespace VariantChess

variable {ε α β : Type}

/-- All results of all elements, in order. -/
def gather (f : α → Except ε (List β)) : List α → Except ε (List β)
  | [] => .ok []
  | a :: as =>
    match f a with
    | .error e => .error e
    | .ok bs => (gather f as).map (bs ++ ·)

/-- The elements that pass a test. -/
def keep (p : α → Except ε Bool) : List α → Except ε (List α)
  | [] => .ok []
  | a :: as =>
    match p a with
    | .error e => .error e
    | .ok pass => (keep p as).map fun kept => if pass then a :: kept else kept

/-- Whether some element passes a test; the elements behind the first that does are not tested. -/
def anyPasses (p : α → Except ε Bool) : List α → Except ε Bool
  | [] => .ok false
  | a :: as =>
    match p a with
    | .error e => .error e
    | .ok true => .ok true
    | .ok false => anyPasses p as

end VariantChess
