import VariantChess.Layout.Literal.Escape
import VariantChess.Text.Identifier
import VariantChess.Text.Quoted

/-!
# Tokens of literals

A literal is read as tokens: names, numbers, texts in quotes, and marks, brackets among them. Between
brackets the ends of lines do not count. `tokens` reads a text up to its end or the first fault of spelling
that lies in a single token or in the way the brackets close each other.
-/

namespace VariantChess.Layout.Literal

inductive Token where
  | name (s : String)
  | number (imaginary : Bool)
  /-- A text or bytes, and what is wrong with it. -/
  | text (ofBytes : Bool) (fault : Option Fault)
  /-- A text with expressions in it, the line on which it begins, and whether backslashes are nothing
  special in it. -/
  | template (raw : Bool) (line : Nat) (text : String)
  | mark (s : String)
  | lineEnd
  /-- The blanks before the first token of a line. -/
  | indent
  /-- The end of all lines. -/
  | finish
deriving DecidableEq, Repr

/-- A token, the number of brackets open behind it, and its line. -/
structure Lexeme where
  token : Token
  depth : Nat
  line : Nat
  /-- Whether the text was found to end behind the token. -/
  isLast : Bool
deriving DecidableEq, Repr

/-- What ends the tokens of a text. -/
inductive Ending where
  | finished
  /-- A fault that counts even if the tokens before it make no sense. -/
  | misspelled (fault : Fault)
  /-- A fault that counts only if all tokens before it make sense. -/
  | broken (fault : Fault)
deriving DecidableEq, Repr

/-- The tokens of a text, what ends them, and the brackets open there with their lines, the innermost
first. -/
structure Tokens where
  lexemes : Array Lexeme
  ending : Ending
  unclosed : List (Char × Nat)
deriving Repr

/-! ### Numbers -/

/-- What stands behind digits with single low lines between them. Fails with what stands at a low line
that no digit follows. -/
def behindDigits (isDigit : Char → Bool) : List Char → Except (List Char) (List Char)
  | [] => .ok []
  | '_' :: cs => if cs.head?.any isDigit then behindDigits isDigit cs else .error cs
  | c :: cs => if isDigit c then behindDigits isDigit cs else .ok (c :: cs)

/-- Whether the character may go on a name, be it one that is then found wrong. -/
def goesOn (c : Char) : Bool := c.isAlphanum || c = '_' || 128 ≤ c.toNat

/-- Whether a word that may follow a number stands there. -/
def startsWord (cs : List Char) : Bool :=
  ["if", "in", "is"].any (fun word => word.toList.isPrefixOf cs) ||
    ["and", "else", "for", "or", "not"].any fun word =>
      word.toList.isPrefixOf cs && !(cs.drop word.length).head?.any goesOn

/-- Whether a number may end before a text. -/
def mayEnd (cs : List Char) : Bool :=
  startsWord cs || !cs.head?.any fun c => goesOn c && c.toNat < 128

/-- What stands behind a number that ends here. -/
def endNumber (radix : Radix) (cs : List Char) : Except Fault (List Char) :=
  if mayEnd cs then .ok cs else .error (.badNumber radix)

/-- What stands behind digits with low lines in a decimal number. -/
def behindDecimal (cs : List Char) : Except Fault (List Char) :=
  (behindDigits Char.isDigit cs).mapError fun _ => .badNumber .decimal

/-- The end of a decimal number from where the letter for its imaginary part may stand. -/
def readImaginary (cs : List Char) : Except Fault (Bool × List Char) :=
  match cs with
  | 'j' :: rest | 'J' :: rest => (endNumber .imaginary rest).map (true, ·)
  | cs => (endNumber .decimal cs).map (false, ·)

/-- The end of a decimal number from where its exponent may stand. -/
def readExponent (cs : List Char) : Except Fault (Bool × List Char) :=
  let hasExponent := cs.head? == some 'e' || cs.head? == some 'E'
  let rest := cs.drop 1
  let signed := rest.head? == some '+' || rest.head? == some '-'
  let digits := if signed then rest.drop 1 else rest
  if !hasExponent then readImaginary cs
  else if digits.head?.any Char.isDigit then do readImaginary (← behindDecimal digits)
  else if !signed && startsWord cs then .ok (false, cs)
  else .error (.badNumber .decimal)

/-- The end of a decimal number from where its point may stand. -/
def readFraction (cs : List Char) : Except Fault (Bool × List Char) :=
  match cs with
  | '.' :: rest =>
    if rest.head?.any Char.isDigit then do readExponent (← behindDecimal rest) else readExponent rest
  | cs => readExponent cs

/-- A number behind the zero and the letter of its base. -/
def readRadix (radix : Radix) (isDigit : Char → Bool) (cs : List Char) :
    Except Fault (Bool × List Char) :=
  let refuse (rest : List Char) : Fault :=
    match radix, rest with
    | .hexadecimal, _ => .badNumber radix
    | _, c :: _ => if c.isDigit then .badDigit c radix else .badNumber radix
    | _, [] => .badNumber radix
  let digits := if cs.head? == some '_' then cs.drop 1 else cs
  if !digits.head?.any isDigit then .error (refuse digits)
  else
    match behindDigits isDigit digits with
    | .error rest => .error (refuse rest)
    | .ok rest =>
      if radix != .hexadecimal && rest.head?.any Char.isDigit then .error (refuse rest)
      else (endNumber radix rest).map (false, ·)

/-- The number at the beginning of a text; says whether it is imaginary, and what stands behind it. -/
def readNumber (cs : List Char) : Except Fault (Bool × List Char) :=
  match cs with
  | '0' :: 'x' :: rest | '0' :: 'X' :: rest => readRadix .hexadecimal isHexDigit rest
  | '0' :: 'o' :: rest | '0' :: 'O' :: rest => readRadix .octal (fun c => '0' ≤ c && c < '8') rest
  | '0' :: 'b' :: rest | '0' :: 'B' :: rest => readRadix .binary (fun c => c = '0' || c = '1') rest
  | cs => do
    let rest ← behindDecimal cs
    let digits := cs.take (cs.length - rest.length)
    let isWhole := !(rest.head?.any fun c => ['.', 'e', 'E', 'j', 'J'].contains c)
    let hasValue := digits.any fun c => c ≠ '0' && c ≠ '_'
    if digits.head? == some '0' && hasValue && isWhole then .error .leadingZeros
    else readFraction rest

/-! ### Names and texts -/

/-- The number of a character as messages show it. -/
def shownCode (c : Char) : String :=
  let n := Text.code c
  let width := if n < 0x10000 then 4 else if n < 0x100000 then 5 else 6
  String.ofList ((Text.hexDigits width n).map Char.toUpper)

/-- A character that cannot stand in a literal. -/
def refusedCharacter (c : Char) : Fault :=
  if Text.isPrintable c then .badCharacter c (shownCode c) else .badHiddenCharacter (shownCode c)

/-- Looks for a character that cannot stand in a name. -/
def checkName : List Char → Except Fault Unit
  | [] => .ok ()
  | c :: cs =>
    if !Text.isNameStart c then .error (refusedCharacter c)
    else
      match cs.find? fun d => !Text.isNamePart d with
      | some d => .error (refusedCharacter d)
      | none => .ok ()

/-- The words that may stand before the quotes of a text. -/
def textPrefixes : List String := ["b", "r", "u", "f", "br", "rb", "fr", "rf"]

/-- The text and what stands behind its closing quotes, of which there are one or three. -/
def readText (quotes : List Char) (line : Nat) (text : List Char) :
    List Char → Except Fault (List Char × List Char)
  | [] => .error (.unterminated (quotes.length = 3) (line + text.count '\n'))
  | [c] =>
    if quotes = [c] then .ok (text.reverse, [])
    else .error (.unterminated (quotes.length = 3) (line + text.count '\n' + if c = '\n' then 1 else 0))
  | c :: d :: cs =>
    if quotes.isPrefixOf (c :: d :: cs) then .ok (text.reverse, (c :: d :: cs).drop quotes.length)
    else if c = '\n' && quotes.length = 1 then .error (.unterminated false (line + text.count '\n'))
    else if c = '\\' then readText quotes line (d :: c :: text) cs
    else readText quotes line (c :: text) (d :: cs)

/-- The token of a text behind a word on a line. -/
def textToken (line : Nat) (word text : List Char) : Token :=
  let has (small : Char) : Bool := word.any fun c => c.toLower = small
  if has 'f' then .template (has 'r') line (String.ofList text)
  else if !has 'b' then .text false (if has 'r' then none else textFault? 0 text)
  else if text.any fun c => 128 ≤ c.toNat then .text true (some .badByte)
  else .text true (if has 'r' then none else bytesFault? 0 text)

/-! ### Marks -/

/-- The marks of more than one character, the longer ones first. -/
def longMarks : List String :=
  ["...", "**=", "//=", "<<=", ">>=", "**", "//", "<<", ">>", "==", "!=", "<>", "<=", ">=", "->",
   ":=", "+=", "-=", "*=", "/=", "%=", "&=", "|=", "^=", "@="]

/-- The mark at the beginning of a text. -/
def readMark (cs : List Char) : List Char :=
  match longMarks.find? fun mark => mark.toList.isPrefixOf cs with
  | some mark => mark.toList
  | none => cs.take 1

/-- The bracket that closes an opening one. -/
def closingOf (opening : Char) : Char :=
  if opening = '(' then ')' else if opening = '[' then ']' else '\x7d'

/-- How deep brackets can stand in each other. -/
def depthLimit : Nat := 200

/-- The brackets that are open behind a mark. -/
def openBehind (line : Nat) (unclosed : List (Char × Nat)) (mark : List Char) :
    Except Fault (List (Char × Nat)) :=
  match mark with
  | [c] =>
    if ['(', '[', '\x7b'].contains c then
      if depthLimit ≤ unclosed.length then .error .tooDeep else .ok ((c, line) :: unclosed)
    else if [')', ']', '\x7d'].contains c then
      match unclosed with
      | [] => .error (.unmatched c)
      | (opening, start) :: outer =>
        if closingOf opening = c then .ok outer
        else .error (.mismatched c opening (if start = line then none else some start))
    else .ok unclosed
  | _ => .ok unclosed

/-! ### All tokens -/

/-- What has been read of a text: the tokens, the last of which comes first, the line, whether that has
no token yet and whether it begins with blanks, and the open brackets. -/
structure Scan where
  found : List Lexeme := []
  line : Nat := 1
  fresh : Bool := true
  indented : Bool := false
  unclosed : List (Char × Nat) := []

namespace Scan

/-- The line with its first blanks as a token, if it has no token yet. -/
def indent (s : Scan) : Scan :=
  if s.fresh && s.indented then { s with found := ⟨.indent, 0, s.line, false⟩ :: s.found } else s

/-- One more token on the line. -/
def add (s : Scan) (token : Token) (isLast : Bool) : Scan :=
  let lexeme : Lexeme := ⟨token, s.unclosed.length, s.line, isLast⟩
  { s with found := lexeme :: s.indent.found, fresh := false, indented := false }

/-- The end of a line. -/
def endLine (s : Scan) : Scan :=
  let found :=
    if s.fresh || !s.unclosed.isEmpty then s.found else ⟨.lineEnd, 0, s.line, false⟩ :: s.found
  { s with found, line := s.line + 1, fresh := s.unclosed.isEmpty, indented := false }

/-- Blanks; those before a form feed do not count at the beginning of a line. -/
def skip (s : Scan) (blanks : List Char) : Scan :=
  let behindFeed := blanks.reverse.takeWhile fun d => d.toNat ≠ 12
  let hasFeed := behindFeed.length < blanks.length
  { s with indented := s.fresh && ((s.indented && !hasFeed) || !behindFeed.isEmpty) }

/-- All tokens, with what ends them. -/
def close (s : Scan) (ending : Ending) : Tokens := ⟨s.found.reverse.toArray, ending, s.unclosed⟩

/-- All tokens at the end of the text; an open bracket must be closed before. -/
def finish (s : Scan) : Tokens :=
  match s.unclosed with
  | (bracket, _) :: _ => s.close (.broken (.unclosed bracket))
  | [] => (s.endLine.add .finish true).close .finished

end Scan

/-- The token at the beginning of a text that begins neither with a blank nor with the end of a line, and
what stands behind it. -/
def readToken (s : Scan) (cs : List Char) : Except Fault (Scan × List Char) := do
  let c := cs.headD ' '
  let isWordStart := c.isAlpha || c = '_' || 128 ≤ c.toNat
  let word := if isWordStart then cs.takeWhile goesOn else []
  let behind := cs.drop word.length
  let isText := behind.head? == some '\'' || behind.head? == some '"'
  if isText && (word.isEmpty || textPrefixes.contains (String.ofList (word.map Char.toLower))) then
    let quote := behind.take 1
    let triple := (quote ++ quote ++ quote).isPrefixOf behind
    let quotes := if triple then quote ++ quote ++ quote else quote
    let (text, rest) ← readText quotes s.line [] (behind.drop quotes.length)
    let s := s.add (textToken s.line word text) (text.isEmpty && rest.isEmpty)
    return ({ s with line := s.line + text.count '\n' }, rest)
  else if isWordStart then
    if word.any fun d => 128 ≤ d.toNat then checkName word
    return (s.add (.name (String.ofList word)) behind.isEmpty, behind)
  else if c.isDigit || (c = '.' && (cs.drop 1).head?.any Char.isDigit) then
    let (imaginary, rest) ← if c = '.' then readFraction cs else readNumber cs
    return (s.add (.number imaginary) rest.isEmpty, rest)
  else if !Text.isPrintable c then .error (refusedCharacter c)
  else
    let mark := readMark cs
    let rest := cs.drop mark.length
    let unclosed ← openBehind s.line s.unclosed mark
    return ({ s with unclosed }.add (.mark (String.ofList mark)) (mark.length < 3 && rest.isEmpty), rest)

/-- The tokens of the text behind those found so far. The first argument bounds the number of steps. -/
def tokensFrom : Nat → Scan → List Char → Tokens
  | 0, s, _ => s.finish
  | _, s, [] => s.finish
  | steps + 1, s, c :: cs =>
    let blank (c : Char) : Bool := c = ' ' || c = '\t' || c.toNat = 12
    if blank c then tokensFrom steps (s.skip ((c :: cs).takeWhile blank)) (cs.dropWhile blank)
    else if c = '#' then tokensFrom steps s (cs.dropWhile (· ≠ '\n'))
    else if c = '\n' then tokensFrom steps s.endLine cs
    else if c = '\\' then
      match cs with
      | '\n' :: d :: cs => tokensFrom steps { s with line := s.line + 1 } (d :: cs)
      | ['\n'] => s.close (.broken (match s.unclosed with
        | [] => .endAfterContinuation
        | (bracket, _) :: _ => .unclosed bracket))
      | _ => s.close (.broken .badContinuation)
    else
      match readToken s (c :: cs) with
      | .error fault => s.indent.close (.misspelled fault)
      | .ok (s, rest) => tokensFrom steps s rest

/-- The tokens of a text that begins on a line. -/
def tokens (line : Nat) (text : List Char) : Tokens := tokensFrom (text.length + 1) { line } text

end VariantChess.Layout.Literal
