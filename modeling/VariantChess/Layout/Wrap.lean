import VariantChess.Layout.Styled

/-!
# Wrapping

Text is broken into lines of limited width. A line ends before the word that no longer fits, and keeps
the blanks behind its last word as far as there is room. A word that is wider than a whole line is
continued on further lines or cut off with three dots.
-/

namespace VariantChess.Layout

/-- What becomes of a word that is wider than a line. -/
inductive Overflow where
  | fold
  | ellipsis
deriving DecidableEq, Repr

/-! ### Words -/

/-- The runs of blanks and the words, each word with the blanks behind it. -/
def runs : List Char → List (List Char)
  | [] => []
  | c :: cs =>
    match runs cs with
    | [] => [[c]]
    | run :: more =>
      if Text.isBlank c && run.head?.any fun d => !Text.isBlank d then [c] :: run :: more
      else (c :: run) :: more

/-- The words of a line with the blanks behind them; the first also has those before it. -/
def words (line : List Char) : List (List Char) :=
  match runs line with
  | [] => []
  | run :: more =>
    if run.all Text.isBlank then
      match more with
      | [] => []
      | word :: more => (run ++ word) :: more
    else run :: more

/-! ### Lines -/

/-- The text without the blanks at its end. -/
def trimEnd (s : List Char) : List Char := (s.reverse.dropWhile Text.isBlank).reverse

/-- The beginning of a text of graphemes in exactly so many columns, if it has as many; half of a wide one
is a blank. -/
def cut (width : Nat) : List Text.Grapheme → List Char
  | [] => []
  | g :: gs =>
    if width = 0 then []
    else if g.width ≤ width then g.text ++ cut (width - g.width) gs
    else [' ']

/-- The text in exactly so many columns: filled up, or cut off. -/
def exactly (width : Nat) (s : List Char) : List Char :=
  let filled := Text.width s
  if filled ≤ width then s ++ List.replicate (width - filled) ' '
  else cut width (Text.graphemes s)

/-- The graphemes in pieces that fit into the width, behind the beginning of a piece of which `filled`
columns are filled. -/
def chopFrom (width filled : Nat) (piece : List Char) : List Text.Grapheme → List (List Char)
  | [] => [piece]
  | g :: gs =>
    if filled + g.width ≤ width then chopFrom width (filled + g.width) (piece ++ g.text) gs
    else piece :: chopFrom width g.width g.text gs

/-- The text in pieces that fit into the width. -/
def chop (width : Nat) (s : List Char) : List (List Char) := chopFrom width 0 [] (Text.graphemes s)

/-- The places before texts that stand behind each other from a place on. -/
def placesFrom (start : Nat) : List (List Char) → List Nat
  | [] => []
  | s :: more => start :: placesFrom (start + s.length) more

/-- The places at which a line is broken before words, the first of which begins at the place `start`
behind so many filled columns. -/
def breaksFrom (overflow : Overflow) (width filled start : Nat) : List (List Char) → List Nat
  | [] => []
  | word :: more =>
    let needed := Text.width (trimEnd word)
    let next := start + word.length
    if filled + needed ≤ width then
      breaksFrom overflow width (filled + Text.width word) next more
    else if overflow = .fold && width < needed then
      let pieces := chop width word
      placesFrom start pieces ++
        breaksFrom overflow width (Text.width (pieces.getLast?.getD [])) next more
    else start :: breaksFrom overflow width (Text.width word) next more

/-- The places at which a line is broken. -/
def breaks (overflow : Overflow) (width : Nat) (line : List Char) : List Nat :=
  (breaksFrom overflow width 0 0 (words line)).filter (· ≠ 0)

/-- A line without breaks of its own in lines of limited width. -/
def wrapLine (overflow : Overflow) (width : Nat) (line : Styled) : List Styled :=
  let line := line.expandTabs
  (line.divide (breaks overflow width line.text)).map fun part => part.trimBeyond width

/-- A text in lines of limited width, but for words that are not folded. -/
def wrap (overflow : Overflow) (width : Nat) (s : Styled) : List Styled :=
  s.lines.flatMap (wrapLine overflow width)

/-- The line cut down to the width. -/
def clip (overflow : Overflow) (width : Nat) (line : Styled) : Styled :=
  if Text.width line.text ≤ width then line
  else
    line.withText (match overflow with
      | .fold => exactly width line.text
      | .ellipsis => exactly (width - 1) line.text ++ ['…'])

end VariantChess.Layout
