import VariantChess.Text.Character
import VariantChess.Text.Digit

/-!
# Integers

An integer as a user may write it: digits with single low lines between them, a sign in front, and blanks
around it. Decimal digits may be of any script, and in base ten there may be no more of them than
`digitLimit`. In the bases two, eight and sixteen the digits may be preceded by a zero and the letter of
the base, and there is no limit.
-/

namespace VariantChess.Text

/-- White space around a number: all blanks but the four separators of ASCII. -/
def isNumberBlank (c : Char) : Bool := isBlank c && !(28 ≤ c.toNat && c.toNat ≤ 31)

/-- The text without the white space around a number. -/
def stripNumber (s : List Char) : List Char :=
  ((s.dropWhile isNumberBlank).reverse.dropWhile isNumberBlank).reverse

/-- The value of a digit: a decimal digit of any script, or a letter for the values from ten on. -/
def digitValue? (c : Char) : Option Nat :=
  if c.isLower then some (c.toNat - 87)
  else if c.isUpper then some (c.toNat - 55)
  else decimalValue? c

/-- The number written in a base by digits with single low lines between them, `n` being what came before
and `inside` saying whether a digit did. -/
def groupedFrom (base n : Nat) (inside : Bool) : List Char → Option Nat
  | [] => if inside then some n else none
  | c :: cs =>
    match (digitValue? c).filter (· < base) with
    | some d => groupedFrom base (base * n + d) true cs
    | none => if c = '_' && inside then groupedFrom base n false cs else none

/-- The letter that names a base. -/
def baseLetter? (base : Nat) : Option Char := [(2, 'b'), (8, 'o'), (16, 'x')].lookup base

/-- The digits behind the zero and the letter of the base, and behind one low line; all of them if they
do not begin so. -/
def behindBase (base : Nat) (digits : List Char) : List Char :=
  match digits with
  | '0' :: letter :: rest =>
    if baseLetter? base == some letter.toLower then
      match rest with
      | '_' :: rest => rest
      | rest => rest
    else digits
  | _ => digits

/-- The number that digits without a sign write in a base. The low lines between them do not count
towards the limit of base ten. -/
def natural? (base : Nat) (digits : List Char) : Option Nat :=
  let digits := behindBase base digits
  if base = 10 && digitLimit < (digits.filter (· ≠ '_')).length then none
  else groupedFrom base 0 false digits

/-- The integer that a text writes in a base. -/
def integerIn? (base : Nat) (s : List Char) : Option Int :=
  match stripNumber s with
  | '-' :: digits => (natural? base digits).map fun n => -(n : Int)
  | '+' :: digits => (natural? base digits).map fun n => (n : Int)
  | digits => (natural? base digits).map fun n => (n : Int)

/-- The integer that a text writes in base ten. -/
def integer? (s : List Char) : Option Int := integerIn? 10 s

end VariantChess.Text
