import VariantChess.Text.Character

/-!
# Digits and numbers

A *digit* is any character that stands for a single digit: the decimal digits of every script, and
also superscripts and digits in circles. Only decimal digits make up numbers, and no number has more of
them than `digitLimit`, zeros in front included: `number` reads a run of decimal digits in base ten and
refuses every other run, and an integer with more digits cannot be written either (`isWritable`).

Both notations of the library, for movement and for boards, are read from left to right. A reader that
stops says why and how much of the text was left (`Refusal`); put into its text, that becomes the place of
the fault (`NotationError`). Digits that make up no number are refused without a place.
-/

namespace VariantChess.Text

/-- Decimal digits beyond ASCII, whole scripts at a time: every ten places start again at zero. -/
def decimalRanges : List (Nat × Nat) :=
  [(1632, 1641), (1776, 1785), (1984, 1993), (2406, 2415), (2534, 2543), (2662, 2671), (2790, 2799),
   (2918, 2927), (3046, 3055), (3174, 3183), (3302, 3311), (3430, 3439), (3558, 3567), (3664, 3673),
   (3792, 3801), (3872, 3881), (4160, 4169), (4240, 4249), (6112, 6121), (6160, 6169), (6470, 6479),
   (6608, 6617), (6784, 6793), (6800, 6809), (6992, 7001), (7088, 7097), (7232, 7241), (7248, 7257),
   (42528, 42537), (43216, 43225), (43264, 43273), (43472, 43481), (43504, 43513), (43600, 43609),
   (44016, 44025), (65296, 65305), (66720, 66729), (68912, 68921), (69734, 69743), (69872, 69881),
   (69942, 69951), (70096, 70105), (70384, 70393), (70736, 70745), (70864, 70873), (71248, 71257),
   (71360, 71369), (71472, 71481), (71904, 71913), (72016, 72025), (72784, 72793), (73040, 73049),
   (73120, 73129), (92768, 92777), (92864, 92873), (93008, 93017), (120782, 120831),
   (123200, 123209), (123632, 123641), (125264, 125273), (130032, 130041)]

/-- Digits beyond ASCII that are no decimal digits. -/
def loneDigitRanges : List (Nat × Nat) :=
  [(178, 179), (185, 185), (4969, 4977), (6618, 6618), (8304, 8304), (8308, 8313), (8320, 8329),
   (9312, 9320), (9332, 9340), (9352, 9360), (9450, 9450), (9461, 9469), (9471, 9471),
   (10102, 10110), (10112, 10120), (10122, 10130), (68160, 68163), (69216, 69224), (69714, 69722),
   (127232, 127242)]

/-- The value of a decimal digit of any script. -/
def decimalValue? (c : Char) : Option Nat :=
  if isAscii c then
    if c.isDigit then some (c.toNat - '0'.toNat) else none
  else
    (decimalRanges.find? fun r => r.1 ≤ c.toNat && c.toNat ≤ r.2).map fun r => (c.toNat - r.1) % 10

/-- Whether the character is a digit, decimal or not. -/
def isDigit (c : Char) : Bool :=
  if isAscii c then c.isDigit else inRanges decimalRanges c || inRanges loneDigitRanges c

/-! ### Numbers -/

/-- The most digits that a number may have. -/
def digitLimit : Nat := 4300

/-- Why digits that stand together are of no use as a number. -/
inductive NumberFault where
  /-- Some of them are no decimal digits. -/
  | notDecimal
  /-- There are more than a number may have. -/
  | tooLong (digits : Nat)
  /-- There cannot be as many of a thing as they say. -/
  | tooMany
deriving DecidableEq, Repr

def NumberFault.message : NumberFault → String
  | notDecimal => "Digits without a decimal value"
  | tooLong digits => s!"Exceeds the limit ({digitLimit} digits) for integer string conversion: " ++
    s!"value has {digits} digits; use sys.set_int_max_str_digits() to increase the limit"
  | tooMany => "cannot fit 'int' into an index-sized integer"

/-- What decimal digits, of which there may be any number, write in base ten. -/
def decimal? (digits : List Char) : Option Nat :=
  if digits.isEmpty then none
  else digits.foldl (fun n c => do return 10 * (← n) + (← decimalValue? c)) (some 0)

/-- The number that a run of digits writes in base ten. The decimal digits at its front are counted
before any others are minded. -/
def number (digits : List Char) : Except NumberFault Nat :=
  let front := digits.takeWhile fun c => (decimalValue? c).isSome
  if digitLimit < front.length then .error (.tooLong front.length)
  else
    match decimal? digits with
    | some n => .ok n
    | none => .error .notDecimal

/-- Whether the integer can be written in base ten. -/
def isWritable (n : Int) : Bool := (Nat.toDigits 10 n.natAbs).length ≤ digitLimit

end VariantChess.Text

/-! ### Refusals of a notation -/

namespace VariantChess

/-- Why a reader stopped, and how many characters were left. -/
inductive Refusal (Fault : Type) where
  | fault (fault : Fault) (left : Nat)
  /-- Digits that stand together are of no use as a number. -/
  | number (fault : Text.NumberFault)
deriving DecidableEq, Repr

/-- Why a text is not in the notation: a fault with the text and its place, or digits that are of no use
as a number. -/
inductive NotationError (Fault : Type) where
  | malformed (fault : Fault) (text : String) (offset : Option Nat)
  | number (fault : Text.NumberFault)
deriving DecidableEq, Repr

/-- The refusal with its place in the text. -/
def Refusal.within {Fault : Type} (text : List Char) : Refusal Fault → NotationError Fault
  | fault f left => .malformed f (String.ofList text) (some (text.length - left))
  | number f => .number f

end VariantChess
