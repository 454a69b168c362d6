import VariantChess.Text.Character
import VariantChess.Text.Width

/-!
# Styled text

A text with spans, each of which puts its characters into a style. When the text is cut or filled up its
spans are cut and moved with it. A plain page shows no styles, but the ends of the spans still part the
text (`Styled.parts`), and what is parted is not joined into one place.
-/

namespace VariantChess.Layout

/-- The characters of a text from `start` up to `stop`, and the words of their style. -/
structure Span where
  start : Nat
  stop : Nat
  style : List Char
deriving DecidableEq, Repr

/-- The span in a text that stands behind so many other characters. -/
def Span.shift (count : Nat) (s : Span) : Span :=
  { s with start := s.start + count, stop := s.stop + count }

structure Styled where
  text : List Char
  spans : List Span := []
deriving DecidableEq, Repr

/-- The characters that are never shown. -/
def isHidden (c : Char) : Bool := [7, 8, 11, 12, 13].contains c.toNat

namespace Styled

/-- A text in no style, without the characters that are never shown. -/
def ofText (text : List Char) : Styled := { text := text.filter fun c => !isHidden c }

variable (s : Styled)

/-! ### Cutting -/

/-- The first characters, with the spans that begin among them. -/
def take (count : Nat) : Styled where
  text := s.text.take count
  spans := (s.spans.filter fun span => span.start < count).map fun span =>
    { span with stop := min count span.stop }

/-- The characters from `start` up to `stop`, with the spans that share some of them. -/
def slice (start stop : Nat) : Styled where
  text := (s.text.take stop).drop start
  spans := s.spans.filterMap fun span =>
    let first := span.start - start
    let last := min span.stop stop - start
    if first < last then some { span with start := first, stop := last } else none

/-- The slices between these places. -/
def slicesFrom (start : Nat) : List Nat → List Styled
  | [] => [s.slice start s.text.length]
  | stop :: stops => s.slice start stop :: slicesFrom stop stops

/-- The text divided at places; undivided it also keeps its empty spans. -/
def divide (places : List Nat) : List Styled := if places.isEmpty then [s] else s.slicesFrom 0 places

/-- The text without so many characters at its end. -/
def dropEnd (count : Nat) : Styled := if count = 0 then s else s.take (s.text.length - count)

/-- The number of blanks at the end of the text. -/
def blanksAtEnd : Nat := (s.text.reverse.takeWhile Text.isBlank).length

/-- The text without the blanks at its end. -/
def trimEnd : Styled := s.dropEnd s.blanksAtEnd

/-- The text without as many blanks at its end as it has more characters than these. -/
def trimBeyond (count : Nat) : Styled := s.dropEnd (min s.blanksAtEnd (s.text.length - count))

/-- The places of a character. -/
def placesOf (c : Char) : List Nat :=
  (s.text.zipIdx.filter fun e => e.1 == c).map (·.2)

/-- The lines of the text. -/
def lines : List Styled :=
  let ends := s.placesOf '\n'
  if ends.isEmpty then [s]
  else
    let lines := s.slicesFrom 0 (ends.flatMap fun i => [i, i + 1])
    lines.filter fun line => line.text != ['\n']

/-! ### Filling up -/

/-- The text with other characters, no more of which are styled than there are. -/
def withText (text : List Char) : Styled :=
  if text.length < s.text.length then { (s.take text.length) with text } else { s with text }

/-- The text behind so many blanks. -/
def indent (count : Nat) : Styled where
  text := List.replicate count ' ' ++ s.text
  spans := s.spans.map (Span.shift count)

/-- The text with so many blanks behind it, which are in no style. -/
def padEnd (count : Nat) : Styled := { s with text := s.text ++ List.replicate count ' ' }

/-- The text with so many blanks behind it, in the style of its end. -/
def stretch (count : Nat) : Styled where
  text := s.text ++ List.replicate count ' '
  spans := s.spans.map fun span =>
    if s.text.length ≤ span.stop then { span with stop := span.stop + count } else span

/-- One text behind the other. -/
def append (t : Styled) : Styled where
  text := s.text ++ t.text
  spans := s.spans ++ t.spans.map (Span.shift s.text.length)

/-- The parts of a line, each of which but the last ends with a tab, in one line, with every tab filled up
to the next multiple of eight columns. -/
def fillTabs (column : Nat) : List Styled → Styled
  | [] => ⟨[], []⟩
  | part :: parts =>
    if part.text.getLast? == some '\t' then
      let part := part.withText (part.text.dropLast ++ [' '])
      let column := column + Text.width part.text
      let blanks := (8 - column % 8) % 8
      (part.stretch blanks).append (fillTabs (column + blanks) parts)
    else part.append (fillTabs (column + Text.width part.text) parts)

/-- The line with every tab filled up. -/
def expandTabs : Styled :=
  let tabs := s.placesOf '\t'
  if tabs.isEmpty then s
  else fillTabs 0 ((s.divide (tabs.map (· + 1))).filter fun part => !part.text.isEmpty)

/-! ### Parts -/

/-- The characters up to each of these places, which are in order, from the place `start` on. -/
def cutAt (start : Nat) (text : List Char) : List Nat → List (List Char)
  | [] => [text]
  | place :: places => text.take (place - start) :: cutAt place (text.drop (place - start)) places

/-- The parts into which the ends of the spans divide the text. -/
def parts : List (List Char) :=
  let places := (List.range s.text.length).filter fun i =>
    s.spans.any fun span => span.start == i || span.stop == i
  (cutAt 0 s.text places).filter (· ≠ [])

end Styled

end VariantChess.Layout
