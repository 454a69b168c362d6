import VariantChess.Datum

/-!
# Scattered members

The members of a set have no order of their own and are shown in the order of the places that they take in
a table. A number goes to the place that its remainder names; if that is taken it tries the places right
behind it, as far as the table holds that many, and then further ones that the remainder leads to.
Values that are no numbers are not scattered, and a set with such a member keeps the order in which its
members came.
-/

namespace VariantChess

namespace Scatter

/-- Numbers are told apart by the remainders that they leave here. -/
def modulus : Nat := Nat.pow 2 61 - 1

/-- The remainder of a number in units of `1 / Double.denominator`, with the sign of the number. Two is
invertible among these remainders and its 61st power is one, so `2 ^ 24` undoes the denominator
`2 ^ 1074`. One below zero is left out. -/
def remainder (units : Int) : Int :=
  let r : Int := units.natAbs * Nat.pow 2 24 % modulus
  if units < 0 then (if r = 1 then -2 else -r) else r

/-- The remainder that stands for an infinity. -/
def infinite : Int := 314159

/-- The remainder of a value that is a number. -/
def remainder? : Datum → Option Int
  | .float x =>
    if x.isInfinite then some (if x.isNegative then -infinite else infinite)
    else (Datum.float x).units?.map remainder
  | d => d.units?.map remainder

/-- The number of places in the table for so many members. -/
def size (count : Nat) : Nat := if count < 5 then 8 else Nat.pow 2 ((2 * count).log2 + 1)

/-- How many places behind a taken one are tried. -/
def reach : Nat := 9

/-- The places that are tried at once from a place on. -/
def window (size place : Nat) : List Nat :=
  if place + reach < size then (List.range (reach + 1)).map (place + ·) else [place]

/-- The first free place from a place on. The remainder is used up in steps of five bits, after which the
places come around to all. The first argument bounds the number of steps. -/
def freePlace (size : Nat) (taken : List Nat) : Nat → Nat → Nat → Nat
  | 0, _, place => place
  | steps + 1, rest, place =>
    match (window size place).find? fun p => !taken.contains p with
    | some free => free
    | none =>
      freePlace size taken steps (rest / 32) ((5 * place + 1 + rest / 32) % size)

/-- The place for a member beside others. -/
def placeFor (size : Nat) (taken : List Nat) (remainder : Int) : Nat :=
  let start := (remainder % Int.pow 2 64).toNat
  freePlace size taken (size + 64) start (start % size)

/-- The members with their places. -/
def placed (size : Nat) (members : List (Int × Datum)) : List (Nat × Datum) :=
  members.foldl (fun table m => (placeFor size (table.map (·.1)) m.1, m.2) :: table) []

end Scatter

/-- The members of a set in the order in which they are shown. -/
def scattered (members : List Datum) : List Datum :=
  match members.mapM fun m => (Scatter.remainder? m).map fun r => (r, m) with
  | none => members
  | some numbers =>
    (sortStable (fun a b => a.1 < b.1) (Scatter.placed (Scatter.size members.length) numbers)).map (·.2)

end VariantChess
