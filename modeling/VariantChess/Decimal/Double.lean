/-!
# Numbers in double precision

A `Double` is its 64 bits. Values enter by rounding an exact fraction to the nearest representable
number, a tie going to the even significand, and leave as the exact fraction that they stand for, so
every conversion is integer arithmetic.
-/

namespace VariantChess

/-- A sign, eleven bits of exponent and 52 bits of significand. -/
structure Double where
  bits : UInt64
deriving DecidableEq, Repr

/-- `n / d` to the nearest natural number, a half to the even one. -/
def roundHalfEven (n d : Nat) : Nat :=
  let q := n / d
  let r := n % d
  if d < 2 * r || (2 * r == d && q % 2 == 1) then q + 1 else q

namespace Double

/-- The number with the given sign and the other 63 bits. -/
def ofMagnitude (negative : Bool) (magnitude : Nat) : Double :=
  ⟨UInt64.ofNat ((if negative then Nat.pow 2 63 else 0) + magnitude)⟩

/-- Zero without a sign. -/
def zero : Double := ⟨0⟩

/-- The magnitude of the infinities; what lies above it is no number. -/
def infiniteMagnitude : Nat := 2047 * Nat.pow 2 52

/-- A value that is no number. -/
def nan : Double := ofMagnitude false (infiniteMagnitude + Nat.pow 2 51)

/-- The bits without the sign. -/
def magnitude (d : Double) : Nat := d.bits.toNat % Nat.pow 2 63

def isNegative (d : Double) : Bool := Nat.pow 2 63 ≤ d.bits.toNat

def isNaN (d : Double) : Bool := infiniteMagnitude < d.magnitude

def isInfinite (d : Double) : Bool := d.magnitude == infiniteMagnitude

def isZero (d : Double) : Bool := d.magnitude == 0

/-- A finite value is `numerator / 2 ^ 1074` up to its sign: the significand, shifted by how far the
exponent stands above the least one. -/
def numerator (d : Double) : Nat :=
  let exponent := d.magnitude / Nat.pow 2 52
  let fraction := d.magnitude % Nat.pow 2 52
  if exponent = 0 then fraction else (fraction + Nat.pow 2 52) * Nat.pow 2 (exponent - 1)

/-- The denominator of every finite value. -/
def denominator : Nat := Nat.pow 2 1074

/-- The numerator with the sign of the value. -/
def signedNumerator (d : Double) : Int := if d.isNegative then -(d.numerator : Int) else d.numerator

/-- The magnitude nearest to `n / d`, infinite or above if the fraction is too large. The value is
counted in units of its last place; the count and the place add up to the bits because a significand
that reaches `2 ^ 53` carries into the exponent. -/
def nearestMagnitude (n d : Nat) : Nat :=
  let scaled := n * denominator
  let place := (scaled / d).log2 + 1 - 53
  place * Nat.pow 2 52 + roundHalfEven scaled (d * Nat.pow 2 place)

/-- The number nearest to `± n / d`; too large a fraction gives an infinity. -/
def ofRatio (negative : Bool) (n d : Nat) : Double :=
  ofMagnitude negative (min (nearestMagnitude n d) infiniteMagnitude)

/-- The number nearest to an integer, unless the integer is too large. -/
def ofInt? (n : Int) : Option Double :=
  let m := nearestMagnitude n.natAbs 1
  if m < infiniteMagnitude then some (ofMagnitude (n < 0) m) else none

/-- The number nearest to `± coefficient * 10 ^ exponent`. Powers that are far out of range are
settled by their size alone. -/
def ofDecimal (negative : Bool) (coefficient : Nat) (exponent : Int) : Double :=
  let size : Int := exponent + (Nat.toDigits 10 coefficient).length
  if coefficient = 0 || size < -400 then ofMagnitude negative 0
  else if 400 < size then ofMagnitude negative infiniteMagnitude
  else if exponent < 0 then ofRatio negative coefficient (Nat.pow 10 exponent.natAbs)
  else ofRatio negative (coefficient * Nat.pow 10 exponent.natAbs) 1

/-! ### Arithmetic -/

/-- The number with the other sign. -/
def neg (x : Double) : Double := ofMagnitude (!x.isNegative) x.magnitude

/-- What an operation without a result comes to; its sign tells it from `nan`. -/
def undefined : Double := nan.neg

/-- The result of an operation on `x` and `y` unless one of them is no number, which is then the result. -/
def unlessNaN (x y result : Double) : Double :=
  if x.isNaN then x else if y.isNaN then y else result

/-- The sum, rounded. -/
def add (x y : Double) : Double :=
  let sum := x.signedNumerator + y.signedNumerator
  let negative := sum < 0 || (x.isNegative && y.isNegative)
  unlessNaN x y <|
    if x.isInfinite then if y == x.neg then undefined else x
    else if y.isInfinite then y
    else ofRatio negative sum.natAbs denominator

/-- The product, rounded. -/
def mul (x y : Double) : Double :=
  let negative := x.isNegative != y.isNegative
  unlessNaN x y <|
    if x.isInfinite || y.isInfinite then
      if x.isZero || y.isZero then undefined else ofMagnitude negative infiniteMagnitude
    else ofRatio negative (x.numerator * y.numerator) (denominator * denominator)

end Double

end VariantChess
