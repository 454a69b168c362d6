import VariantChess.Layout.Handler
import VariantChess.Layout.Style
import VariantChess.Layout.Styled
import VariantChess.Sorted
import VariantChess.Text.Emoji

/-!
# Style tags

The cells of a table may hold style tags: a name in brackets that begins with a small letter, `#`,
`/` or `@`. A tag whose name begins with a slash closes the last open one of the same name, or just the
last one. The tags become spans of the text, whose names of pictures are replaced. A backslash before a tag
makes it text, and two backslashes are one.
-/

namespace VariantChess.Layout

/-- Why a text with tags cannot be shown. -/
inductive TagFault where
  /-- No tag of the name is open. -/
  | unmatched (tag : String) (position : Nat)
  | nothingOpen (position : Nat)
  /-- The style of a tag cannot be read. -/
  | badStyle
  | badHandler (fault : HandlerFault)
deriving DecidableEq, Repr

def TagFault.message : TagFault → String
  | unmatched tag position =>
    s!"closing tag '{tag}' at position {position} doesn't match any open tag"
  | nothingOpen position => s!"closing tag '[/]' at position {position} has nothing to close"
  | badStyle => "a part of a color is empty"
  | badHandler fault => fault.message

/-- A part of a text with tags. -/
inductive Piece where
  | plain (s : List Char)
  /-- What stands between the brackets of a tag, and where the tag begins. -/
  | tag (content : List Char) (position : Nat)
deriving DecidableEq, Repr

/-- Whether the name of a tag may begin so. -/
def opensTag (c : Char) : Bool := c.isLower || c = '#' || c = '/' || c = '@'

/-- The content of the tag whose bracket has just been opened, and the text behind the tag. -/
def tagContent? : List Char → Option (List Char × List Char)
  | [] => none
  | c :: cs =>
    let name := cs.takeWhile fun d => d ≠ ']' && d ≠ '['
    match cs.dropWhile fun d => d ≠ ']' && d ≠ '[' with
    | ']' :: rest => if opensTag c then some (c :: name, rest) else none
    | _ => none

/-- The parts of a text behind a plain one and `slashes` backslashes, from a position on. The first
argument bounds the number of steps. -/
def piecesFrom : Nat → Nat → List Char → Nat → List Char → List Piece
  | 0, _, plain, _, _ => [.plain plain]
  | _, slashes, plain, _, [] => [.plain (plain ++ List.replicate slashes '\\')]
  | steps + 1, slashes, plain, position, '\\' :: cs =>
    piecesFrom steps (slashes + 1) plain (position + 1) cs
  | steps + 1, slashes, plain, position, '[' :: cs =>
    match tagContent? cs with
    | some (content, rest) =>
      let shown := '[' :: content ++ [']']
      let tag := if slashes % 2 = 1 then Piece.plain shown else .tag content position
      .plain plain :: .plain (List.replicate (slashes / 2) '\\') :: tag ::
        piecesFrom steps 0 [] (position + shown.length) rest
    | none =>
      piecesFrom steps 0 (plain ++ List.replicate (slashes - 1) '\\' ++ ['[']) (position + 1) cs
  | steps + 1, slashes, plain, position, c :: cs =>
    piecesFrom steps 0 (plain ++ List.replicate slashes '\\' ++ [c]) (position + 1) cs

/-- The parts of a text. -/
def pieces (s : List Char) : List Piece := piecesFrom (s.length + 1) 0 [] 0 s

/-! ### Spans -/

/-- A tag that is open: where its text begins, the normal form of its name, and what stands behind an
equals sign. -/
structure OpenTag where
  start : Nat
  name : List Char
  argument : Option (List Char)
deriving DecidableEq, Repr

/-- The words of the style that a tag asks for. -/
def OpenTag.style (tag : OpenTag) : List Char :=
  tag.name ++ (tag.argument.map (' ' :: ·)).getD []

/-- The name and the argument in what stands between the brackets of a tag. -/
def splitTag (content : List Char) : List Char × Option (List Char) :=
  match content.dropWhile (· ≠ '=') with
  | [] => (content, none)
  | _ :: argument => (content.takeWhile (· ≠ '='), some argument)

/-- A text as far as its tags have been read: what is shown of it, the tags that are open, the last one
first, and the spans of those that have been closed, the last one first. -/
structure Reading where
  shown : List Char := []
  opened : List OpenTag := []
  spans : List Span := []

namespace Reading

variable (r : Reading)

/-- The reading with more text. -/
def withPlain (s : List Char) : Reading :=
  { r with shown := r.shown ++ (Styled.ofText (Text.withEmoji s)).text }

/-- The span of a tag that ends here. -/
def spanOf (tag : OpenTag) (style : List Char) : Span := ⟨tag.start, r.shown.length, style⟩

/-- The reading with a tag opened. -/
def openTag (content : List Char) : Except TagFault Reading :=
  let (name, argument) := splitTag content
  match Style.normal? name with
  | none => .error .badStyle
  | some name =>
    .ok { r with opened := ⟨r.shown.length, name.toList, argument⟩ :: r.opened }

/-- The style of the span of a tag that is closed; a handler has none. -/
def closedStyle (tag : OpenTag) : Except TagFault (List Char) :=
  if tag.name.head? == some '@' then
    match checkHandler (tag.argument.getD []) with
    | .error fault => .error (.badHandler fault)
    | .ok () => .ok []
  else .ok tag.style

/-- The reading with an open tag closed. -/
def close (tag : OpenTag) : Except TagFault Reading :=
  (closedStyle tag).map fun style =>
    { r with opened := r.opened.erase tag, spans := r.spanOf tag style :: r.spans }

/-- The reading with the tag closed that a closing tag, at a position, names. -/
def closeTag (content : List Char) (position : Nat) : Except TagFault Reading :=
  let name := Text.strip ((splitTag content).1.drop 1)
  if name.isEmpty then
    match r.opened with
    | [] => .error (.nothingOpen position)
    | tag :: _ => r.close tag
  else
    match Style.normal? name with
    | none => .error .badStyle
    | some name =>
      match r.opened.find? fun tag => tag.name == name.toList with
      | none => .error (.unmatched (String.ofList ('[' :: content ++ [']'])) position)
      | some tag => r.close tag

/-- The reading with one more piece. -/
def withPiece : Piece → Except TagFault Reading
  | .plain s => .ok (r.withPlain s)
  | .tag content position =>
    if content.head? == some '/' then r.closeTag content position else r.openTag content

/-- The text with its spans in the order of their places; those that begin at one place stand in the order
in which their tags were closed, the last one first. -/
def styled : Styled where
  text := r.shown
  spans :=
    let unclosed := r.opened.map fun tag => r.spanOf tag tag.style
    sortStable (fun a b => a.start < b.start) (unclosed.reverse ++ r.spans)

end Reading

/-- What is seen of a text with tags. -/
def seen (text : String) : Except TagFault Styled :=
  ((pieces text.toList).foldlM Reading.withPiece {}).map Reading.styled

end VariantChess.Layout
