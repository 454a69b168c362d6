import VariantChess.Board.Basic
import VariantChess.Text.Case
import VariantChess.Text.Character
import VariantChess.Text.Digit
import VariantChess.Text.Letter
import VariantChess.Text.Quoted

/-!
# Board notation

The rows of a board, top row first, with a slash between them. In a row, a number is that many empty
cells and a letter is a piece: an upper-case one for white, a lower-case one for black. A symbol of
several letters stands in braces, and an exclamation mark in front makes the piece yellow. Blanks
count for nothing. `Board.text` writes a board and `Board.read` reads one.
-/

namespace VariantChess

/-! ### Writing -/

/-- The piece as board notation writes it. -/
def Piece.text (p : Piece) : List Char :=
  let name := if p.symbol.length = 1 then p.symbol.toList else '\x7b' :: p.symbol.toList ++ ['\x7d']
  match p.color with
  | .white => Text.upper name
  | .black => name
  | .yellow => '!' :: name

namespace Board

/-- The number of empty cells passed, if any. -/
def gapText (n : Nat) : List Char := if n = 0 then [] else Nat.toDigits 10 n

/-- The cells of a row behind a gap of `gap` empty ones. -/
def rowText (gap : Nat) : List Cell → List Char
  | [] => gapText gap
  | none :: row => rowText (gap + 1) row
  | some p :: row => gapText gap ++ p.text ++ rowText 0 row

/-- The board in board notation. -/
def text (b : Board) : String :=
  String.ofList (['/'].intercalate (b.rows.map (rowText 0)))

/-- The board as a picture: every cell between bars, every row on its line. -/
def picture (b : Board) : String :=
  "\n".intercalate (b.rows.map fun row =>
    "|" ++ "|".intercalate (row.map fun c => (c.map fun p => String.ofList p.text).getD " ") ++ "|")

/-! ### Reading -/

/-- Why a text is no board notation. -/
inductive Fault where
  | empty
  | emptyRow
  | emptyGap
  | unclosedName
  | unexpected (c : Char)
  | missingPiece
  | badName (name : String)
  | unknownSymbol (symbol : String)
deriving DecidableEq, Repr

def Fault.message : Fault → String
  | empty => "Empty board notation"
  | emptyRow => "Empty row"
  | emptyGap => "Empty-cell run must be positive"
  | unclosedName => "Unterminated piece name"
  | unexpected c => s!"Unexpected character {Text.quote c.toString}"
  | missingPiece => "Dangling color marker"
  | badName name => s!"Invalid piece name {Text.quote name}"
  | unknownSymbol symbol => s!"Unknown piece symbol {Text.quote symbol}"

/-- What a reader gives: mostly a value and the characters behind it, or else a refusal. -/
abbrev Reading := Except (Refusal Fault)

/-- The name of a piece: a letter, or what stands in braces. -/
def readName : List Char → Reading (List Char × List Char)
  | [] => .error (.fault .missingPiece 0)
  | c :: rest =>
    if c = '\x7b' then
      match rest.dropWhile (· ≠ '\x7d') with
      | [] => .error (.fault .unclosedName (rest.length + 1))
      | _ :: behind => .ok (rest.takeWhile (· ≠ '\x7d'), behind)
    else if Text.isLetter c then .ok ([c], rest)
    else .error (.fault (.unexpected c) (rest.length + 1))

/-- Whether the name is all letters, and all of them upper or all of them lower case. -/
def isName (name : List Char) : Bool := Text.isWord name && (Text.isUpper name || Text.isLower name)

/-- The piece of a name; the symbol is the name in lower case. -/
def namedPiece (yellow : Bool) (name : List Char) : Piece where
  symbol := String.ofList (Text.lower name)
  color := if yellow then .yellow else if Text.isUpper name then .white else .black

/-- Reads one piece; the symbol must be a known one if the known ones are given. -/
def readPiece (known : Option (List String)) (cs : List Char) : Reading (Piece × List Char) := do
  let yellow := cs.head? == some '!'
  let (name, rest) ← readName (if yellow then cs.drop 1 else cs)
  let piece := namedPiece yellow name
  if !isName name then .error (.fault (.badName (String.ofList name)) cs.length)
  else if known.any fun symbols => !symbols.contains piece.symbol then
    .error (.fault (.unknownSymbol piece.symbol) cs.length)
  else .ok (piece, rest)

/-- No row has as many places as this, which is the sixty-third power of two. -/
def placeLimit : Nat := 0x8000000000000000

/-- The number of empty cells that a run of digits stands for. -/
def gapSize (digits : List Char) : Except Text.NumberFault Nat :=
  match Text.number digits with
  | .ok n => if n < placeLimit then .ok n else .error .tooMany
  | .error fault => .error fault

/-- Reads a gap or a piece. -/
def readCells (known : Option (List String)) (cs : List Char) : Reading (List Cell × List Char) :=
  match cs.takeWhile Text.isDigit with
  | [] => do
    let (piece, rest) ← readPiece known cs
    .ok ([some piece], rest)
  | digits =>
    match gapSize digits with
    | .error fault => .error (.number fault)
    | .ok 0 => .error (.fault .emptyGap cs.length)
    | .ok n => .ok (List.replicate n none, cs.dropWhile Text.isDigit)

/-- Reads rows to the end of the text, behind a row that starts with `row`. The first argument bounds
the number of steps; more than the length of the text is enough. -/
def readRows (known : Option (List String)) : Nat → List Cell → List Char → Reading (List (List Cell))
  | 0, _, _ => .error (.fault .emptyRow 0)
  | _ + 1, row, [] => if row.isEmpty then .error (.fault .emptyRow 0) else .ok [row]
  | steps + 1, row, '/' :: rest =>
    if row.isEmpty then .error (.fault .emptyRow (rest.length + 1))
    else do
      let rows ← readRows known steps [] rest
      .ok (row :: rows)
  | steps + 1, row, cs => do
    let (cells, rest) ← readCells known cs
    readRows known steps (row ++ cells) rest

/-- The board that a text describes; every symbol must be a known one if the known ones are given. -/
def read (text : String) (known : Option (List String)) : Except (NotationError Fault) Board :=
  match Text.compact text.toList with
  | [] => .error (.malformed .empty "" none)
  | cs => ((readRows known (cs.length + 1) [] cs).map ofRows).mapError (Refusal.within cs)

end Board

end VariantChess
