import VariantChess.Text.Character
import VariantChess.Text.Printable

/-!
# Quoted text

How messages show a piece of text: between single quotes, or double ones if the text holds a single
quote and no double one. The quote in use and the backslash are escaped, and so is what does not
print, by the shortest of three hexadecimal forms.

A text that holds half characters cannot be written down as bytes, apart from those halves that stand for a
byte where such are allowed. `strayHalves?` finds what is in the way.
-/

namespace VariantChess.Text

/-- The `width` low hexadecimal digits of `n`. -/
def hexDigits (width n : Nat) : List Char :=
  (List.range width).reverse.map fun i => Nat.digitChar (n / Nat.pow 16 i % 16)

/-- The escape of a character that does not print, after its backslash. -/
def hexEscape (n : Nat) : List Char :=
  if n < 256 then 'x' :: hexDigits 2 n
  else if n < 65536 then 'u' :: hexDigits 4 n
  else 'U' :: hexDigits 8 n

/-- The quote that a text is put between. -/
def quoteFor (s : List Char) : Char := if s.contains '\'' && !s.contains '"' then '"' else '\''

/-- One character of a text between the given quotes. -/
def escapeIn (quote c : Char) : List Char :=
  if c = quote || c = '\\' then ['\\', c]
  else if c = '\n' then ['\\', 'n']
  else if c = '\r' then ['\\', 'r']
  else if c = '\t' then ['\\', 't']
  else if isPrintable c then [c]
  else '\\' :: hexEscape (code c)

/-- The text between quotes. -/
def quoted (s : List Char) : List Char :=
  let quote := quoteFor s
  quote :: s.flatMap (escapeIn quote) ++ [quote]

/-- The text between quotes, as a string. -/
def quote (s : String) : String := String.ofList (quoted s.toList)

/-! ### Stray halves -/

/-- Halves of characters that follow each other from a place in a text on. -/
structure StrayHalves where
  place : Nat
  codes : List Nat
deriving DecidableEq, Repr

/-- The wording of what is wrong with a text that holds them. -/
def StrayHalves.message (halves : StrayHalves) : String :=
  let shown := match halves.codes with
    | [code] => s!"character '\\{String.ofList (hexEscape code)}' in position {halves.place}"
    | codes => s!"characters in position {halves.place}-{halves.place + codes.length - 1}"
  s!"'utf-8' codec can't encode {shown}: surrogates not allowed"

/-- The first half among the numbers of characters that is not allowed, with the halves right behind it. The
second argument is the place of the first number. -/
def strayHalves? (allowed : Nat → Bool) : Nat → List Nat → Option StrayHalves
  | _, [] => none
  | place, code :: codes =>
    if isHalfCode code && !allowed code then some ⟨place, code :: codes.takeWhile isHalfCode⟩
    else strayHalves? allowed (place + 1) codes

end VariantChess.Text
