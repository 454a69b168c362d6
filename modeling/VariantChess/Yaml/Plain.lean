import VariantChess.Yaml.Cursor

/-!
# Plain scalars as written

A plain scalar goes on over spaces and line breaks as long as words follow that are indented enough. The
cursor behind it is behind the blanks that follow its last word.
-/

namespace VariantChess.Yaml

/-- Whether a plain scalar may start here. -/
def opensPlain (flow : Bool) : List Char → Bool
  | [] => false
  | c :: rest =>
    let marks := [' ', '\t', '-', '?', ':', '#', '&', '*', '!', '|', '>', '\'', '"', '%', '@', '\x60']
    !(isBreak c || isFlowMark c || marks.contains c) ||
      (!blankNext rest && (c = '-' || (!flow && (c = '?' || c = ':'))))

/-- The part of a plain scalar up to the next blank or mark. -/
def plainWord (flow : Bool) : List Char → List Char
  | [] => []
  | c :: rest =>
    let ends := isBreak c || isInlineBlank c ||
      (c = ':' && (blankNext rest || (flow && rest.head?.any isFlowMark))) ||
      (flow && (isFlowMark c || c = '?'))
    if ends then [] else c :: plainWord flow rest

/-- The further breaks of a gap that has begun with one, with the cursor behind it; nothing if a line
that separates documents ends the gap. -/
def plainBreaks : Nat → Cursor → Option (List Char) × Cursor
  | 0, c => (some [], c)
  | n + 1, c =>
    if marksDocument c then (none, c)
    else
      let c := c.skipSpaces
      match c.rest with
      | ch :: _ =>
        if isBreak ch then
          let (breaks, c) := plainBreaks n c.step
          (breaks.map (ch :: ·), c)
        else (some [], c)
      | [] => (some [], c)

/-- What the blanks at the cursor come to inside a plain scalar, with the cursor behind them. Nothing
if the scalar ends before them. -/
def plainGap (c : Cursor) : Option (List Char) × Cursor :=
  let (spaces, next) := c.takeWhile (· = ' ')
  match next.rest with
  | ch :: _ =>
    if isBreak ch then
      let (breaks, behind) := plainBreaks next.rest.length next.step
      (breaks.map (folded ch), behind)
    else (if spaces.isEmpty then none else some spaces, next)
  | [] => (if spaces.isEmpty then none else some spaces, next)

/-- A plain scalar as it is written: its words with what stands for the gaps between them. -/
structure Plain where
  text : List Char
  /-- Whether the blanks behind the last word hold a line break. -/
  endsLine : Bool
  behind : Cursor

/-- The words of a plain scalar from the cursor on. Outside brackets, further lines must be indented as
far as `indent`. The first argument bounds the number of words. -/
def plainFrom (flow : Bool) (indent : Nat) : Nat → Cursor → Plain
  | 0, c => ⟨[], false, c⟩
  | words + 1, c =>
    let word := plainWord flow c.rest
    let wordEnd := c.skip word.length
    let (gap, next) := plainGap wordEnd
    let last : Plain := ⟨word, next.line != wordEnd.line, next⟩
    match gap with
    | none => last
    | some gap =>
      let goesOn := next.rest.head? != some '#' && (flow || indent ≤ next.column) &&
        !(plainWord flow next.rest).isEmpty
      if goesOn then
        let more := plainFrom flow indent words next
        { more with text := word ++ gap ++ more.text }
      else last

/-- The plain scalar at the cursor. -/
def plainScalar (flow : Bool) (indent : Nat) (c : Cursor) : Plain :=
  plainFrom flow indent (c.rest.length + 1) c

end VariantChess.Yaml
