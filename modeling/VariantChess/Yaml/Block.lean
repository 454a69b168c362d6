import VariantChess.Yaml.Cursor

/-!
# Block scalars

A block scalar holds the lines below its header that are indented far enough, either as they are or with
their breaks folded into spaces. The header may say how far the lines are indented and what becomes of
the breaks at the end.
-/

namespace VariantChess.Yaml

/-- What becomes of the line breaks at the end of a block scalar. -/
inductive Chomping where
  /-- The last line keeps its break. -/
  | clip
  | strip
  | keep
deriving DecidableEq, Repr

/-- The header of a block scalar. -/
structure BlockHeader where
  chomping : Chomping := .clip
  /-- How much further than their surroundings the lines are indented. -/
  increment : Option Nat := none

def chomping? (c : Char) : Option Chomping :=
  if c = '+' then some .keep else if c = '-' then some .strip else none

/-- The increment that a digit writes. -/
def increment? (c : Char) : Option Nat := if c.isDigit then some (c.toNat - 48) else none

/-- The header behind its first character: a sign and a digit in either order, then a comment. -/
def blockHeader (c : Cursor) : Reading BlockHeader :=
  let first := c.rest.head?
  let second := (c.rest.drop 1).head?
  let (header, c) : BlockHeader × Cursor :=
    match first.bind chomping?, first.bind increment? with
    | some chomping, _ =>
      match second.bind increment? with
      | some n => (⟨chomping, some n⟩, c.skip 2)
      | none => (⟨chomping, none⟩, c.step)
    | none, some n =>
      match second.bind chomping? with
      | some chomping => (⟨chomping, some n⟩, c.skip 2)
      | none => (⟨.clip, some n⟩, c.step)
    | none, none => ({}, c)
  let behind := c.skipComment
  if header.increment == some 0 || !spaceNext c.rest || !endsLine behind.rest then .error .malformed
  else .ok (header, behind.step)

/-- The empty lines at the cursor and the indentation of the line behind them, or of one of theirs if
it is larger. -/
def blockIndent : Nat → Cursor → List Char × Nat × Cursor
  | 0, c => ([], 0, c)
  | n + 1, c =>
    let c := c.skipSpaces
    match c.rest with
    | ch :: _ =>
      if isBreak ch then
        let (breaks, indent, last) := blockIndent n c.step
        (ch :: breaks, max indent c.column, last)
      else ([], c.column, c)
    | [] => ([], c.column, c)

/-- The cursor behind the spaces at it up to a column. -/
def toColumn (indent : Nat) (c : Cursor) : Cursor :=
  c.skip ((c.rest.take (indent - c.column)).takeWhile (· = ' ')).length

/-- The empty lines at the cursor, with the cursor in the given column of the line behind them or at its
first character before. -/
def blockBreaks (indent : Nat) : Nat → Cursor → List Char × Cursor
  | 0, c => ([], c)
  | n + 1, c =>
    let c := toColumn indent c
    match c.rest with
    | ch :: _ =>
      if isBreak ch then
        let (breaks, last) := blockBreaks indent n c.step
        (ch :: breaks, last)
      else ([], c)
    | [] => ([], c)

/-- The text of the lines from the cursor on, which is in their column, and the breaks behind the last of
them: its own, if it has one, and those of the empty lines that follow. -/
def blockLines (folding : Bool) (indent : Nat) : Nat → Cursor → List Char × List Char × List Char × Cursor
  | 0, c => ([], [], [], c)
  | n + 1, c =>
    let indented (c : Cursor) : Bool := c.rest.head?.any isInlineBlank
    let (line, lineEnd) := c.takeWhile fun ch => !isBreak ch
    let own := lineEnd.rest.take 1
    let (breaks, next) := blockBreaks indent (lineEnd.rest.length + 1) lineEnd.step
    if next.column = indent && !next.rest.isEmpty then
      let gap :=
        if folding && own == ['\n'] && !indented c && !indented next then
          if breaks.isEmpty then [' '] else breaks
        else own ++ breaks
      let (text, last) := blockLines folding indent n next
      (line ++ gap ++ text, last)
    else (line, own, breaks, next)

/-- The block scalar whose header is at the cursor. `column` is the least column of its lines, if the
header does not say more. -/
def blockScalar (column : Nat) (c : Cursor) : Reading (List Char) :=
  let folding := c.rest.head? == some '>'
  (blockHeader c.step).map fun (header, c) =>
    let least := max 1 column
    let bound := c.rest.length + 1
    let (before, indent, c) :=
      match header.increment with
      | some n =>
        let indent := least + n - 1
        let (breaks, c) := blockBreaks indent bound c
        (breaks, indent, c)
      | none =>
        let (breaks, indent, c) := blockIndent bound c
        (breaks, max least indent, c)
    if c.column = indent && !c.rest.isEmpty then
      let (text, own, breaks, c) := blockLines folding indent bound c
      let tail := match header.chomping with
        | .clip => own
        | .strip => []
        | .keep => own ++ breaks
      (before ++ text ++ tail, c)
    else (if header.chomping = .keep then before else [], c)

end VariantChess.Yaml
