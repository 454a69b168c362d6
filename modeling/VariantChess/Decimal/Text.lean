import VariantChess.Decimal.Double

/-!
# The text of a number

`Decimal` is a coefficient and a power of ten. `Double.shortest` finds the one with the fewest digits
that reads back as the given number, `Double.significant` the nearest one with a given number of
digits; `Decimal.text` lays the digits out, with or without an exponent.
-/

namespace VariantChess

/-- `coefficient * 10 ^ exponent`. -/
structure Decimal where
  coefficient : Nat
  exponent : Int
deriving Repr

namespace Decimal

/-- Where the positional form ends, and whether it shows a whole number with a fraction. -/
structure Style where
  /-- From this power of ten on, numbers are written with an exponent. -/
  positionalBelow : Int
  /-- Whether a whole number ends in `.0`. -/
  wholeWithFraction : Bool

/-- The digits of the coefficient without the zeros at its end. -/
def digits (d : Decimal) : List Char :=
  match ((Nat.toDigits 10 d.coefficient).reverse.dropWhile (· == '0')).reverse with
  | [] => ['0']
  | ds => ds

/-- The power of ten of the first digit. -/
def leading (d : Decimal) : Int :=
  if d.coefficient = 0 then 0 else d.exponent + (Nat.toDigits 10 d.coefficient).length - 1

/-- The digits with the point in its place, for powers of ten down to the fourth below one. -/
def positional (style : Style) (digits : List Char) (leading : Int) : List Char :=
  if leading < 0 then ['0', '.'] ++ List.replicate (leading.natAbs - 1) '0' ++ digits
  else
    let whole := leading.natAbs + 1
    if digits.length ≤ whole then
      digits ++ List.replicate (whole - digits.length) '0' ++
        (if style.wholeWithFraction then ['.', '0'] else [])
    else digits.take whole ++ '.' :: digits.drop whole

/-- The first digit, the others behind a point, and an exponent of at least two digits. -/
def scientific (digits : List Char) (leading : Int) : List Char :=
  let power := Nat.toDigits 10 leading.natAbs
  digits.take 1 ++ (if 1 < digits.length then '.' :: digits.drop 1 else []) ++
    ['e', if leading < 0 then '-' else '+'] ++ (if power.length < 2 then '0' :: power else power)

/-- The decimal as text, without a sign. -/
def text (style : Style) (d : Decimal) : List Char :=
  if -4 ≤ d.leading && d.leading < style.positionalBelow then positional style d.digits d.leading
  else scientific d.digits d.leading

/-- The power of ten of the first digit of `n / d`. -/
def leadingPower (n d : Nat) : Int :=
  if d ≤ n then ((Nat.toDigits 10 (n / d)).length : Int) - 1
  else -((Nat.toDigits 10 ((d - 1) / n)).length : Int)

/-- `n / d` divided by `10 ^ exponent`, as a fraction. -/
def scaled (n d : Nat) (exponent : Int) : Nat × Nat :=
  if exponent < 0 then (n * Nat.pow 10 exponent.natAbs, d)
  else (n, d * Nat.pow 10 exponent.natAbs)

end Decimal

namespace Double

/-- Of the two neighbours of the number with `count` digits, the nearer one that reads back. -/
def shortestWith? (d : Double) (count : Nat) : Option Decimal :=
  let exponent := Decimal.leadingPower d.numerator denominator + 1 - count
  let (n, m) := Decimal.scaled d.numerator denominator exponent
  let readsBack (c : Nat) : Bool := (ofDecimal false c exponent).magnitude == d.magnitude
  let below := n / m
  let nearer := roundHalfEven n m
  let other := if nearer == below then below + 1 else below
  if readsBack nearer then some ⟨nearer, exponent⟩
  else if readsBack other then some ⟨other, exponent⟩
  else none

/-- The decimal with the fewest digits that reads back as this finite number; seventeen always do. -/
def shortest (d : Double) : Decimal :=
  if d.isZero then ⟨0, 0⟩
  else ((List.range 17).findSome? fun i => d.shortestWith? (i + 1)).getD ⟨0, 0⟩

/-- The nearest decimal with `count` digits, a half to the even one. -/
def significant (count : Nat) (d : Double) : Decimal :=
  if d.isZero then ⟨0, 0⟩
  else
    let exponent := Decimal.leadingPower d.numerator denominator + 1 - count
    let (n, m) := Decimal.scaled d.numerator denominator exponent
    ⟨roundHalfEven n m, exponent⟩

/-- The text of any number, its finite part through `decimal`. -/
def textWith (style : Decimal.Style) (decimal : Double → Decimal) (d : Double) : String :=
  if d.isNaN then "nan"
  else
    let sign := if d.isNegative then "-" else ""
    if d.isInfinite then sign ++ "inf"
    else sign ++ String.ofList ((decimal d).text style)

end Double

end VariantChess
