import VariantChess.Yaml.Scalar

/-!
# Cursors

A cursor is a place in a text: what is left of it, with the number of characters passed, the line and
the column. The readers of scalars and tokens take a cursor and return the one behind what they read.
-/

namespace VariantChess.Yaml

structure Cursor where
  rest : List Char
  index : Nat := 0
  line : Nat := 0
  column : Nat := 0

/-! ### Characters -/

/-- The mark with which a text may begin, and which takes up no column. -/
def byteOrderMark : Char := '\uFEFF'

/-- Whether the character ends a line. A next-line character counts as a line feed and has been
replaced by one. -/
def isBreak (c : Char) : Bool := c = '\n' || c = '\u2028' || c = '\u2029'

/-- Whether the line or the text ends here. -/
def endsLine (cs : List Char) : Bool := cs.head?.all isBreak

/-- Whether the line or the text ends here, or a space is next. -/
def spaceNext (cs : List Char) : Bool := cs.head?.all fun c => isBreak c || c = ' '

/-- Whether the line or the text ends here, or a space or a tab is next. -/
def blankNext (cs : List Char) : Bool := cs.head?.all fun c => isBreak c || isInlineBlank c

/-- Whether the character may stand in the name of an anchor or of a tag's handle. -/
def isNameChar (c : Char) : Bool := c.isAlphanum || c = '-' || c = '_'

/-- Whether the character separates entries between brackets. -/
def isFlowMark (c : Char) : Bool := [',', '[', ']', '\x7b', '\x7d'].contains c

namespace Cursor

/-- The start of a text; a byte order mark there counts as passed. -/
def start : List Char → Cursor
  | [] => { rest := [] }
  | c :: cs => if c = byteOrderMark then { rest := cs, index := 1 } else { rest := c :: cs }

/-- The cursor behind one character. -/
def step (c : Cursor) : Cursor :=
  match c.rest with
  | [] => c
  | ch :: rest =>
    if isBreak ch then ⟨rest, c.index + 1, c.line + 1, 0⟩
    else ⟨rest, c.index + 1, c.line, if ch = byteOrderMark then c.column else c.column + 1⟩

/-- The cursor behind `n` characters. -/
def skip (c : Cursor) : Nat → Cursor
  | 0 => c
  | n + 1 => c.step.skip n

/-- The characters up to the first that fails the test, with the cursor behind them. -/
def takeWhile (p : Char → Bool) (c : Cursor) : List Char × Cursor :=
  let word := c.rest.takeWhile p
  (word, c.skip word.length)

/-- The cursor behind the characters that pass the test. -/
def dropWhile (p : Char → Bool) (c : Cursor) : Cursor := (c.takeWhile p).2

/-- The cursor behind the spaces at it. -/
def skipSpaces (c : Cursor) : Cursor := c.dropWhile (· = ' ')

/-- The end of the line, without its break. -/
def toLineEnd (c : Cursor) : Cursor := c.dropWhile fun ch => !isBreak ch

/-- The cursor behind the spaces at it and behind a comment. -/
def skipComment (c : Cursor) : Cursor :=
  let c := c.skipSpaces
  if c.rest.head? == some '#' then c.toLineEnd else c

/-- The next place with content, over at most so many lines. -/
def toContent : Nat → Cursor → Cursor
  | 0, c => c
  | lines + 1, c =>
    let c := c.skipComment
    if c.rest.head?.any isBreak then toContent lines c.step else c

end Cursor

/-- Whether a line that separates documents starts here. -/
def marksDocument (c : Cursor) : Bool :=
  c.column = 0 &&
    match c.rest with
    | '-' :: '-' :: '-' :: rest => blankNext rest
    | '.' :: '.' :: '.' :: rest => blankNext rest
    | _ => false

/-- What line breaks between two words come to: one line feed is a space and further ones are kept, but
a break of another sort is always kept. -/
def folded (first : Char) (further : List Char) : List Char :=
  if first ≠ '\n' then first :: further else if further.isEmpty then [' '] else further

/-- What a reader comes to: a result with the cursor behind it. -/
abbrev Reading (α : Type) := Except Fault (α × Cursor)

end VariantChess.Yaml
