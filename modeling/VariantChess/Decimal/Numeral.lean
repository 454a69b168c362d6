import VariantChess.Decimal.Double
import VariantChess.Text.Integer

/-!
# Decimal numerals

A number as a user may write it: digits of any script with at most one point, then maybe an exponent, a
sign in front, and blanks around it. Infinity and the value that is no number have names.
-/

namespace VariantChess

/-- The number that decimal digits write. -/
def decimalNat (digits : List Char) : Nat :=
  digits.foldl (fun n c => 10 * n + (c.toNat - 48)) 0

/-- The sign of a number, and the rest. -/
def splitSign : List Char → Bool × List Char
  | '-' :: cs => (true, cs)
  | '+' :: cs => (false, cs)
  | cs => (false, cs)

/-- The text with the decimal digits of all scripts replaced by those of ASCII. -/
def plainDigits (s : List Char) : List Char :=
  s.map fun c => ((Text.decimalValue? c).map Nat.digitChar).getD c

/-- The exponent at the end of a numeral, whose sign may be left out; an absent one is zero. -/
def exponent? : List Char → Option Int
  | [] => some 0
  | e :: cs =>
    let (negative, digits) := splitSign cs
    if (e = 'e' || e = 'E') && !digits.isEmpty && digits.all Char.isDigit then
      some (if negative then -(decimalNat digits : Int) else decimalNat digits)
    else none

/-- The coefficient and the power of ten that a numeral without a sign writes. -/
def unsigned? (cs : List Char) : Option (Nat × Int) :=
  let whole := cs.takeWhile Char.isDigit
  let (fraction, tail) := match cs.dropWhile Char.isDigit with
    | '.' :: behind => (behind.takeWhile Char.isDigit, behind.dropWhile Char.isDigit)
    | tail => ([], tail)
  if whole.isEmpty && fraction.isEmpty then none
  else
    (exponent? tail).map fun e => (decimalNat (whole ++ fraction), e - (fraction.length : Int))

/-- The number that a text in small letters writes, to the nearest double. -/
def Double.ofText? (s : List Char) : Option Double :=
  let (negative, cs) := splitSign (plainDigits (Text.stripNumber s))
  let word := String.ofList cs
  if word == "inf" || word == "infinity" then some (ofMagnitude negative infiniteMagnitude)
  else if word == "nan" then some (ofMagnitude negative nan.magnitude)
  else (unsigned? cs).map fun (coefficient, exponent) => ofDecimal negative coefficient exponent

end VariantChess
