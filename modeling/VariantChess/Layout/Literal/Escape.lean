import VariantChess.Layout.Literal.Fault

/-!
# Escapes in texts

A backslash in a text spells the character behind it, or one of a number or a name. The first escape that
spells nothing is found here. Places in a text are counted as if each character beyond ASCII were spelled by
its number with eight digits, and a backslash before it by its own with four.
-/

namespace VariantChess.Layout.Literal

/-- Whether the character is a hexadecimal digit. -/
def isHexDigit (c : Char) : Bool := c.isDigit || ('a' ≤ c && c ≤ 'f') || ('A' ≤ c && c ≤ 'F')

/-- The number that hexadecimal digits spell. -/
def hexNumber (digits : List Char) : Nat :=
  digits.foldl (fun n c =>
    16 * n + (if c.isDigit then c.toNat - 48 else if c ≤ 'F' then c.toNat - 55 else c.toNat - 87)) 0

/-- The letters of escapes by a number, with how many digits they need and the reason if they have less. -/
def numberEscapes : List (Char × Nat × String) :=
  [('x', 2, "truncated \\xXX escape"), ('u', 4, "truncated \\uXXXX escape"),
   ('U', 8, "truncated \\UXXXXXXXX escape")]

/-- How many places a character takes. -/
def placesOf (c : Char) : Nat := if c.toNat < 128 then 1 else 10

/-- The names of characters that are known, apart from those of single letters. -/
def knownNames : List String :=
  ["SPACE", "BULLET", "SNOWMAN", "EM DASH", "EN DASH", "DEGREE SIGN", "EURO SIGN", "NO-BREAK SPACE",
   "WHITE CHESS KING", "WHITE CHESS QUEEN", "WHITE CHESS ROOK", "WHITE CHESS BISHOP",
   "WHITE CHESS KNIGHT", "WHITE CHESS PAWN", "BLACK CHESS KING", "BLACK CHESS QUEEN",
   "BLACK CHESS ROOK", "BLACK CHESS BISHOP", "BLACK CHESS KNIGHT", "BLACK CHESS PAWN"]

/-- Whether a character has this name, in any case. -/
def isKnownName (name : String) : Bool :=
  let name := name.map Char.toUpper
  knownNames.contains name ||
    ["LATIN SMALL LETTER ", "LATIN CAPITAL LETTER "].any fun start =>
      start.toList.isPrefixOf name.toList &&
        match name.toList.drop start.length with
        | [c] => c.isUpper
        | _ => false

/-- What is wrong with an escape by a name, whose braces are read from here on; `place` is that of the
backslash. -/
def nameFault? (place : Nat) : List Char → Option Fault
  | '\x7b' :: cs =>
    let name := cs.takeWhile (· ≠ '\x7d')
    let width := (name.map placesOf).foldl (· + ·) 0
    if name.length = cs.length then
      some (.badEscape place (place + 2 + width) "malformed \\N character escape")
    else if name.isEmpty then some (.badEscape place (place + 2) "malformed \\N character escape")
    else if isKnownName (String.ofList name) then none
    else some (.badEscape place (place + 3 + width) "unknown Unicode character name")
  | _ => some (.badEscape place (place + 1) "malformed \\N character escape")

/-- The first escape that spells nothing in a text from a place on. -/
def textFault? : Nat → List Char → Option Fault
  | _, [] => none
  | _, ['\\'] => none
  | place, '\\' :: c :: cs =>
    match numberEscapes.lookup c with
    | some (count, reason) =>
      let digits := (cs.take count).takeWhile isHexDigit
      if digits.length < count then some (.badEscape place (place + 1 + digits.length) reason)
      else if 0x10FFFF < hexNumber digits then
        some (.badEscape place (place + 1 + count) "illegal Unicode character")
      else textFault? (place + 2) cs
    | none =>
      if c = 'N' then (nameFault? place cs).or (textFault? (place + 2) cs)
      else if c.toNat < 128 then textFault? (place + 2) cs
      else textFault? (place + 6 + placesOf c) cs
  | place, c :: cs => textFault? (place + placesOf c) cs

/-- The first escape that spells nothing among bytes from a place on. -/
def bytesFault? : Nat → List Char → Option Fault
  | _, [] => none
  | _, ['\\'] => none
  | place, '\\' :: c :: cs =>
    if c = 'x' && ((cs.take 2).takeWhile isHexDigit).length < 2 then some (.badByteEscape place)
    else bytesFault? (place + 2) cs
  | place, _ :: cs => bytesFault? (place + 1) cs

end VariantChess.Layout.Literal
