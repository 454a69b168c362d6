import VariantChess.Calendar
import VariantChess.Text.Quoted

/-!
# Faults

Why a text holds no value. Most texts are malformed; the others are well formed up to a scalar that
does not write what its form or its tag promises.
-/

namespace VariantChess.Yaml

inductive Fault where
  | malformed
  /-- An integer has no digits, or others than its base has. -/
  | notInteger
  | notFraction (text : List Char)
  /-- A number has no text. -/
  | noNumber
  | notTruth (word : List Char)
  | notTime
  /-- A time is written as a mapping. -/
  | timeOfMapping
  /-- A power of sixty is too large for a number with a fraction. -/
  | tooLarge
  | calendar (fault : CalendarFault)
  /-- An escape is the number of no character. -/
  | noCharacter (code : Nat)
deriving DecidableEq, Repr

def Fault.message : Fault → String
  | malformed => "Invalid YAML"
  | notInteger => "Digits without a value"
  | notFraction text => "could not convert string to float: " ++ String.ofList (Text.quoted text)
  | noNumber => "string index out of range"
  | notTruth word => String.ofList (Text.quoted word)
  | notTime => "'NoneType' object has no attribute 'groupdict'"
  | timeOfMapping => "expected string or bytes-like object, got 'list'"
  | tooLarge => "Number too large"
  | calendar fault => fault.message
  | noCharacter code =>
    if code < Nat.pow 2 31 then "chr() arg not in range(0x110000)"
    else "Python int too large to convert to C int"

end VariantChess.Yaml
