import VariantChess.Decimal.Double
import VariantChess.Layout.Style
import VariantChess.Layout.Wrap

/-!
# Tables

A table has columns, each with a header and one text per row, and is drawn with rules between the
columns or without. Every column is as wide as its widest text, with a blank on either side. If the
table is then wider than the page, its widest columns are cut down to the next narrower ones, again
and again, until it fits.
-/

namespace VariantChess.Layout

/-- The side on which the texts of a column are lined up. -/
inductive Alignment where
  | left
  | center
  | right
deriving DecidableEq, Repr

/-- A line in its place among so many columns; in the center, a blank left over goes to the right. -/
def Alignment.place (overflow : Overflow) (width : Nat) (line : Styled) : Alignment → Styled
  | left =>
    let line := clip overflow width line
    line.padEnd (width - Text.width line.text)
  | center =>
    let line := clip overflow width line.trimEnd
    let line := line.indent ((width - Text.width line.text) / 2)
    line.padEnd (width - Text.width line.text)
  | right =>
    let line := clip overflow width line.trimEnd
    line.indent (width - Text.width line.text)

structure Column where
  header : Styled
  alignment : Alignment := .left
  cells : List Styled
deriving Repr

structure Table where
  /-- The text above the table. -/
  title : Option Styled := none
  columns : List Column
  /-- Whether rules are drawn. -/
  ruled : Bool := true
deriving Repr

/-! ### Widths -/

/-- The characters that count as the end of a line when a text is measured. -/
def endsMeasure (c : Char) : Bool :=
  c = '\n' || [28, 29, 30, 133, 8232, 8233].contains c.toNat

/-- The columns that the longest line of a text takes up. -/
def textWidth (s : Styled) : Nat :=
  ((s.text.splitOnP endsMeasure).map Text.width).foldl max 0

/-- The width of a column on a page that leaves it at most `limit`. -/
def Column.width (limit : Nat) (c : Column) : Nat :=
  if limit ≤ 2 then limit else min limit (((c.header :: c.cells).map textWidth).foldl max 0 + 2)

/-- The sum of the widths. -/
def totalWidth (widths : List Nat) : Nat := widths.foldl (· + ·) 0

/-- Takes `excess` off the columns of width `widest`, evenly and from none more than `most`; `count`
is the number of these columns. -/
def takeOff (widest most : Nat) : Nat → Nat → List Nat → List Nat
  | _, _, [] => []
  | excess, count, w :: ws =>
    if w = widest && 0 < count then
      let off := min most (roundHalfEven excess count)
      (w - off) :: takeOff widest most (excess - off) (count - 1) ws
    else w :: takeOff widest most excess count ws

/-- The widths cut down to a sum of at most `limit`. The first argument bounds the number of steps. -/
def cutDown (limit : Nat) : Nat → List Nat → List Nat
  | 0, widths => widths
  | steps + 1, widths =>
    let excess := totalWidth widths - limit
    let widest := widths.foldl max 0
    let next := (widths.filter (· ≠ widest)).foldl max 0
    if excess = 0 || widest = next then widths
    else
      cutDown limit steps
        (takeOff widest (min excess (widest - next)) excess (widths.count widest) widths)

/-- The columns that the rules of the table take up. -/
def Table.ruleWidth (t : Table) : Nat := if t.ruled then t.columns.length + 1 else 0

/-- The widths of the columns on a page of the given width. -/
def Table.widths (page : Nat) (t : Table) : List Nat :=
  let limit := page - t.ruleWidth
  let widths := t.columns.map (Column.width limit)
  if totalWidth widths ≤ limit then widths
  else List.zipWith Column.width (cutDown limit (totalWidth widths) widths) t.columns

/-! ### Drawing -/

/-- The parts of a line up to so many columns. -/
def crop (width : Nat) : List (List Char) → List Char
  | [] => []
  | part :: parts =>
    if Text.width part < width then part ++ crop (width - Text.width part) parts
    else exactly width part

/-- The parts of a line in so many columns, each part taking up its own. -/
def fit (width : Nat) (parts : List (List Char)) : List Char :=
  let filled := totalWidth (parts.map Text.width)
  if filled ≤ width then parts.flatten ++ List.replicate (width - filled) ' ' else crop width parts

/-- The lines of a cell, unless one of its styles cannot be read: a column too narrow for more than its
blanks shows nothing. -/
def cellLines (alignment : Alignment) (width : Nat) (s : Styled) :
    Except StyleFault (List (List Char)) :=
  if width ≤ 2 then .ok []
  else
    let lines := (wrap .ellipsis (width - 2) s).map fun line =>
      alignment.place .ellipsis (width - 2) line
    if lines.all fun line => line.spans.all fun span => Style.isHarmless span.style then
      .ok (lines.map fun line => ' ' :: fit (width - 2) line.parts ++ [' '])
    else .error .noNumber

/-- The characters that rule a line: at its left, between columns, and at its right. -/
structure Rules where
  left : List Char
  middle : List Char
  right : List Char

/-- A line with its rules. -/
def Rules.draw (r : Rules) (parts : List (List Char)) : List Char :=
  r.left ++ List.intercalate r.middle parts ++ r.right

/-- A row, as high as its highest cell. -/
def drawRow (rules : Rules) (widths : List Nat) (alignments : List Alignment) (cells : List Styled) :
    Except StyleFault (List (List Char)) := do
  let cells ← ((widths.zip alignments).zip cells).mapM fun ((w, a), s) => do
    return (w, ← cellLines a w s)
  let height := (cells.map fun cell => cell.2.length).foldl max 1
  return (List.range height).map fun i =>
    rules.draw (cells.map fun (w, lines) => lines.getD i (List.replicate w ' '))

/-- A line of rules only. -/
def drawRule (rules : Rules) (line : Char) (widths : List Nat) : List Char :=
  rules.draw (widths.map fun w => List.replicate w line)

/-- The rules at the sides of the header and of the rows. -/
def Table.sideRules (t : Table) : Rules × Rules :=
  if t.ruled then (⟨['┃'], ['┃'], ['┃']⟩, ⟨['│'], ['│'], ['│']⟩) else (⟨[], [], []⟩, ⟨[], [], []⟩)

/-- The texts of the rows. -/
def Table.rows (t : Table) : List (List Styled) :=
  let height := (t.columns.map fun c => c.cells.length).foldl max 0
  (List.range height).map fun i => t.columns.map fun c => c.cells.getD i ⟨[], []⟩

/-- The lines of the title over a table of the given width. -/
def Table.titleLines (t : Table) (width : Nat) : List (List Char) :=
  match t.title with
  | none => []
  | some title => (wrap .fold width title).map fun line =>
    (Alignment.place .fold width line .center).text

/-- The lines of the table on a page of the given width. -/
def Table.draw (page : Nat) (t : Table) : Except StyleFault (List (List Char)) := do
  let widths := t.widths page
  let alignments := t.columns.map (·.alignment)
  let (headerRules, rowRules) := t.sideRules
  let ruling (lines : List (List Char)) := if t.ruled then lines else []
  let header ← drawRow headerRules widths alignments (t.columns.map (·.header))
  let rows ← t.rows.mapM (drawRow rowRules widths alignments)
  return t.titleLines (totalWidth widths + t.ruleWidth) ++
    ruling [drawRule ⟨['┏'], ['┳'], ['┓']⟩ '━' widths] ++
    header ++
    ruling [drawRule ⟨['┡'], ['╇'], ['┩']⟩ '━' widths] ++
    rows.flatten ++
    ruling [drawRule ⟨['└'], ['┴'], ['┘']⟩ '─' widths]

end VariantChess.Layout
