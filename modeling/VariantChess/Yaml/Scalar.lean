import VariantChess.Datum
import VariantChess.Decimal.Numeral
import VariantChess.Text.Base64
import VariantChess.Text.Case
import VariantChess.Text.Integer
import VariantChess.Yaml.Fault

/-!
# Scalars

What a scalar stands for. Its kind is written as a tag, or is the kind of a plain scalar of its form
(`Kind.ofPlain`): null, a truth value, a number, a time, or text. Integers may be binary, octal,
hexadecimal or in base sixty, digits may be set apart by low lines, and a plain number with a fraction
needs its point. `Kind.read` is the value of a text of a given kind.
-/

namespace VariantChess.Yaml

/-- The kinds of value that a tag names. -/
inductive Kind where
  | null
  | truth
  | integer
  | fraction
  | time
  | text
  | bytes
  | list
  | mapping
  | set
  /-- A list of pairs, which are written as mappings of one entry. -/
  | pairs
  /-- The key whose value is merged into a mapping. -/
  | mergeKey
  /-- The key whose value stands for a mapping where a scalar is needed. -/
  | ownKey
  | unknown
deriving DecidableEq, Repr

namespace Kind

/-- The words with which the standard tags begin. -/
def family : String := "tag:yaml.org,2002:"

/-- The standard tags. -/
def names : List (String × Kind) :=
  [("null", null), ("bool", truth), ("int", integer), ("float", fraction), ("timestamp", time),
   ("str", text), ("binary", bytes), ("seq", list), ("map", mapping), ("set", set), ("omap", pairs),
   ("pairs", pairs), ("merge", mergeKey), ("value", ownKey)]

/-- The kind that a tag names. -/
def ofTag (tag : String) : Kind :=
  ((names.find? fun e => family ++ e.1 == tag).map (·.2)).getD unknown

/-- Whether values of the kind can be keys. -/
def isKey : Kind → Bool
  | list | mapping | set | pairs => false
  | _ => true

end Kind

/-! ### Digits -/

def isHexDigit (c : Char) : Bool :=
  c.isDigit || ('a' ≤ c && c ≤ 'f') || ('A' ≤ c && c ≤ 'F')

/-- The number that hexadecimal digits write. -/
def hexNumber (digits : List Char) : Nat :=
  digits.foldl (fun n c => n * 16 + (Text.digitValue? c).getD 0) 0

/-- The text without its low lines. -/
def joined (cs : List Char) : List Char := cs.filter (· ≠ '_')

/-! ### The forms of plain scalars -/

def nullWords : List String := ["", "~", "null", "Null", "NULL"]

def trueWords : List String := ["yes", "Yes", "YES", "true", "True", "TRUE", "on", "On", "ON"]

def falseWords : List String := ["no", "No", "NO", "false", "False", "FALSE", "off", "Off", "OFF"]

def infinityWords : List String := [".inf", ".Inf", ".INF"]

def nanWords : List String := [".nan", ".NaN", ".NAN"]

/-- Whether there are digits of the class, or low lines, and nothing else. -/
def allDigits (digit : Char → Bool) (cs : List Char) : Bool :=
  !cs.isEmpty && cs.all fun c => digit c || c = '_'

/-- Whether the text is decimal digits and low lines behind a first digit. -/
def isDecimal : List Char → Bool
  | [] => false
  | c :: cs => c.isDigit && cs.all fun c => c.isDigit || c = '_'

/-- Whether the part is a number below sixty, of one or two digits. -/
def isSixtieth (cs : List Char) : Bool :=
  match cs with
  | [a] => a.isDigit
  | [a, b] => '0' ≤ a && a ≤ '5' && b.isDigit
  | _ => false

/-- Whether the text is an integer without a sign. -/
def isNatural (cs : List Char) : Bool :=
  match cs with
  | '0' :: 'b' :: digits => allDigits (fun c => c = '0' || c = '1') digits
  | '0' :: 'x' :: digits => allDigits isHexDigit digits
  | ['0'] => true
  | '0' :: digits => allDigits (fun c => '0' ≤ c && c ≤ '7') digits
  | cs =>
    match cs.splitOn ':' with
    | first :: parts => isDecimal first && parts.all isSixtieth
    | [] => false

/-- Whether the text is nothing or an exponent, which has a sign. -/
def isExponent : List Char → Bool
  | [] => true
  | e :: sign :: digits =>
    (e = 'e' || e = 'E') && (sign = '-' || sign = '+') && !digits.isEmpty && digits.all Char.isDigit
  | _ => false

/-- Whether the text behind a sign, or without one, is a number with a fraction. Only without a sign
it may begin with its point, and only without colons it may have an exponent. -/
def isUnsignedFraction (signed : Bool) (cs : List Char) : Bool :=
  match cs.dropWhile (· ≠ '.') with
  | [] => false
  | _ :: behind =>
    let tail := behind.dropWhile fun c => c.isDigit || c = '_'
    match (cs.takeWhile (· ≠ '.')).splitOn ':' with
    | [[]] => !signed && behind.head?.any Char.isDigit && isExponent tail
    | [whole] => isDecimal whole && isExponent tail
    | first :: parts => isDecimal first && parts.all isSixtieth && tail.isEmpty
    | [] => false

/-- Whether the text is a number with a fraction, or one of those that have names. -/
def isFraction (cs : List Char) : Bool :=
  let (_, unsigned) := splitSign cs
  nanWords.contains (String.ofList cs) || infinityWords.contains (String.ofList unsigned) ||
    isUnsignedFraction (unsigned.length < cs.length) unsigned

/-! ### Times -/

/-- A date as it is written, and the time of day with the digits of its fraction and its offset in
minutes. -/
structure Stamp where
  year : Nat
  month : Nat
  day : Nat
  clock : Option (Nat × Nat × Nat × List Char × Option Int) := none

/-- The number that at least `least` and at most `most` digits write, and the rest. -/
def number? (least most : Nat) (cs : List Char) : Option (Nat × List Char) :=
  let digits := (cs.take most).takeWhile Char.isDigit
  if least ≤ digits.length then some (decimalNat digits, cs.drop digits.length) else none

/-- The rest behind a character. -/
def behind? (c : Char) : List Char → Option (List Char)
  | [] => none
  | d :: cs => if c = d then some cs else none

def isInlineBlank (c : Char) : Bool := c = ' ' || c = '\t'

/-- The offset that a whole text writes. -/
def offset? (cs : List Char) : Option Int :=
  match cs with
  | ['Z'] => some 0
  | sign :: cs => do
    if sign != '-' && sign != '+' then none
    else
      let (hours, cs) ← number? 1 2 cs
      let (minutes, cs) ← match cs with
        | ':' :: cs => number? 2 2 cs
        | cs => some (0, cs)
      let total := hours * 60 + minutes
      if cs.isEmpty then some (if sign = '-' then -(total : Int) else total) else none
  | [] => none

/-- The time of day that a text writes: hours, minutes, seconds, the digits of a fraction, and an
offset. -/
def clock? (cs : List Char) : Option (Nat × Nat × Nat × List Char × Option Int) := do
  let (hour, cs) ← number? 1 2 cs
  let (minute, cs) ← number? 2 2 (← behind? ':' cs)
  let (second, cs) ← number? 2 2 (← behind? ':' cs)
  let (fraction, cs) := match cs with
    | '.' :: cs => (cs.takeWhile Char.isDigit, cs.dropWhile Char.isDigit)
    | cs => ([], cs)
  if cs.isEmpty then some (hour, minute, second, fraction, none)
  else
    let offset ← offset? (cs.dropWhile isInlineBlank)
    some (hour, minute, second, fraction, some offset)

/-- The time that a text writes: a date, and behind the letter T or blanks maybe a time of day. -/
def stamp? (cs : List Char) : Option Stamp := do
  let (year, cs) ← number? 4 4 cs
  let (month, cs) ← number? 1 2 (← behind? '-' cs)
  let (day, cs) ← number? 1 2 (← behind? '-' cs)
  match cs with
  | [] => some { year, month, day }
  | c :: cs =>
    if c = 'T' || c = 't' then return { year, month, day, clock := some (← clock? cs) }
    else if isInlineBlank c then
      return { year, month, day, clock := some (← clock? (cs.dropWhile isInlineBlank)) }
    else none

/-- Whether a plain scalar is a time: a date alone has two digits for the month and for the day. -/
def isTime (cs : List Char) : Bool := (stamp? cs).any fun s => s.clock.isSome || cs.length == 10

/-! ### Kinds of plain scalars -/

/-- The text without one line feed at its end, which does not count where the form of a text does. -/
def withoutBreak (cs : List Char) : List Char :=
  if cs.length = 1 || cs.getLast? != some '\n' then cs else cs.dropLast

/-- The kind of a scalar without a tag that is read by its form. -/
def Kind.ofPlain (cs : List Char) : Kind :=
  let cs := withoutBreak cs
  let word := String.ofList cs
  if word == "=" then .ownKey
  else if word == "<<" then .mergeKey
  else if nullWords.contains word then .null
  else if trueWords.contains word || falseWords.contains word then .truth
  else if isFraction cs then .fraction
  else if isNatural (splitSign cs).2 then .integer
  else if isTime cs then .time
  else .text

/-! ### Values -/

/-- The integer that a text writes: in the base that its first digits name, or in base sixty. -/
def readInteger (cs : List Char) : Except Fault Int :=
  let (negative, digits) := splitSign (joined cs)
  let signed (n : Option Int) : Except Fault Int :=
    match n with
    | some n => .ok (if negative then -n else n)
    | none => .error .notInteger
  match digits with
  | [] => .error .noNumber
  | ['0'] => .ok 0
  | '0' :: 'b' :: digits => signed (Text.integerIn? 2 digits)
  | '0' :: 'x' :: digits => signed (Text.integerIn? 16 digits)
  | '0' :: _ => signed (Text.integerIn? 8 digits)
  | _ =>
    signed (((digits.splitOn ':').mapM Text.integer?).map fun parts =>
      parts.foldl (fun n part => n * 60 + part) 0)

/-- The sum of the parts of a number in base sixty, from the last one on, each times its power of sixty,
which must not be too large. -/
def sumSixties (total : Double) (power : Nat) : List Double → Except Fault Double
  | [] => .ok total
  | part :: parts =>
    match Double.ofInt? power with
    | some factor => sumSixties (total.add (part.mul factor)) (power * 60) parts
    | none => .error .tooLarge

/-- The number that a text writes; one in base sixty is added up from its last part. -/
def readFraction (cs : List Char) : Except Fault Double :=
  let (negative, digits) := splitSign (Text.lower (joined cs))
  let signed (x : Double) : Double := if negative && !x.isNaN then x.neg else x
  let part (cs : List Char) : Except Fault Double :=
    match Double.ofText? cs with
    | some x => .ok x
    | none => .error (.notFraction cs)
  if (joined cs).isEmpty then .error .noNumber
  else if String.ofList digits == ".inf" then
    .ok (signed (.ofMagnitude false Double.infiniteMagnitude))
  else if String.ofList digits == ".nan" then .ok .undefined
  else
    match digits.splitOn ':' with
    | [digits] => (part digits).map signed
    | parts => do return signed (← sumSixties .zero 1 (← parts.mapM part).reverse)

/-- The truth value that a word in any case names. -/
def readTruth (cs : List Char) : Except Fault Bool :=
  let word := Text.lower cs
  if trueWords.contains (String.ofList word) then .ok true
  else if falseWords.contains (String.ofList word) then .ok false
  else .error (.notTruth word)

/-- The microseconds that the digits of a fraction write; further digits are left out. -/
def microseconds (fraction : List Char) : Nat :=
  let digits := fraction.take 6
  decimalNat digits * Nat.pow 10 (6 - digits.length)

/-- The date or the moment that a text writes. -/
def readTime (cs : List Char) : Except Fault Datum :=
  match stamp? (withoutBreak cs) with
  | none => .error .notTime
  | some s =>
    match s.clock with
    | none => ((Date.make s.year s.month s.day).mapError .calendar).map .date
    | some (hour, minute, second, fraction, offset) =>
      ((Moment.make s.year s.month s.day hour minute second (microseconds fraction) offset).mapError
        .calendar).map .moment

/-- The value of a scalar of the given kind. -/
def Kind.read (kind : Kind) (cs : List Char) : Except Fault Datum :=
  match kind with
  | .null => .ok .null
  | .truth => (readTruth cs).map .bool
  | .integer => (readInteger cs).map .int
  | .fraction => (readFraction cs).map .float
  | .time => readTime cs
  | .text => .ok (.text (String.ofList cs))
  | .bytes =>
    match Text.bytes? cs with
    | some content => .ok (.bytes content)
    | none => .error .malformed
  | .list | .mapping | .set | .pairs | .mergeKey | .ownKey | .unknown => .error .malformed

end VariantChess.Yaml
