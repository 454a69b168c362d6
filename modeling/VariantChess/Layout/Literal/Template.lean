import VariantChess.Layout.Literal.Reading

/-!
# Texts with expressions in them

Such a text is made of pieces and of expressions in braces; a brace that is written twice is part of a
piece. Behind an expression may stand an equals sign, a conversion behind `!`, and behind a colon a layout,
in which expressions may stand again. `template` looks through one.
-/

namespace VariantChess.Layout.Literal

/-! ### Pieces -/

/-- Where in a piece the next character stands. -/
inductive PiecePlace where
  | plain
  | behindBackslash
  /-- Behind the letter that begins the name of a character. -/
  | beforeName
  | inName

/-- A piece of a text and what stands behind it. -/
structure Piece where
  text : List Char
  /-- Whether it ends with a brace that is written twice. -/
  endsDoubled : Bool
  rest : List Char

/-- The piece at the beginning of a text, of which the characters in `found` have been read, the last one
first. Only outside of layouts, where `outermost` holds, can a brace be written twice. -/
def readPiece (raw outermost : Bool) (place : PiecePlace) (found : List Char) :
    List Char → Except TemplateFault Piece
  | [] => .ok ⟨found.reverse, false, []⟩
  | c :: cs =>
    let goOn (place : PiecePlace) := readPiece raw outermost place (c :: found) cs
    let isBrace := c = '\x7b' || c = '\x7d'
    match place with
    | .inName => goOn (if c = '\x7d' then .plain else .inName)
    | .beforeName => goOn (if c = '\x7b' then .inName else .plain)
    | place =>
      let isEscaped := match place with
        | .behindBackslash => true
        | _ => false
      if isEscaped && c = 'N' then goOn .beforeName
      else if !isEscaped && !raw && c = '\\' then goOn .behindBackslash
      else if !isBrace then goOn .plain
      else if !outermost then .ok ⟨found.reverse, false, c :: cs⟩
      else if cs.head? == some c then .ok ⟨(c :: found).reverse, true, cs.drop 1⟩
      else if c = '\x7d' then .error .strayBrace
      else .ok ⟨found.reverse, false, c :: cs⟩

/-! ### Expressions -/

/-- The text of an expression and what stands behind it, from a sign on that ends it. The first `skip`
characters belong to signs that have been seen; `quotes` are those of the text in which the next one
stands, `unclosed` the open brackets, and `found` has been read, its last character first. -/
def readEmbedded (skip : Nat) (quotes unclosed found : List Char) :
    List Char → Except TemplateFault (List Char × List Char)
  | [] =>
    match quotes, unclosed with
    | _ :: _, _ => .error .unterminated
    | [], bracket :: _ => .error (.unmatched bracket)
    | [], [] => .error .unclosed
  | c :: cs =>
    let goOn (skip : Nat) (quotes unclosed : List Char) :=
      readEmbedded skip quotes unclosed (c :: found) cs
    let isFree := unclosed.isEmpty
    if 0 < skip then goOn (skip - 1) quotes unclosed
    else if c = '\\' then .error .backslash
    else if !quotes.isEmpty then
      if quotes.isPrefixOf (c :: cs) then goOn (quotes.length - 1) [] unclosed
      else goOn 0 quotes unclosed
    else if c = '\'' || c = '"' then
      if [c, c].isPrefixOf cs then goOn 2 [c, c, c] unclosed else goOn 0 [c] unclosed
    else if ['(', '[', '\x7b'].contains c then
      if depthLimit ≤ unclosed.length then .error .tooManyBrackets else goOn 0 [] (c :: unclosed)
    else if c = '#' then .error .comment
    else if isFree && ['!', '=', '<', '>'].contains c && cs.head? == some '=' then goOn 1 [] []
    else if isFree && ['!', ':', '\x7d', '='].contains c then .ok (found.reverse, c :: cs)
    else if [')', ']', '\x7d'].contains c then
      match unclosed with
      | [] => .error (.unmatched c)
      | bracket :: outer =>
        if closingOf bracket = c then goOn 0 [] outer else .error (.mismatched c bracket)
    else goOn 0 [] unclosed

/-- What stands behind the conversion at the beginning of a text, if there is one. -/
def skipConversion : List Char → Except TemplateFault (List Char)
  | ['!'] => .error .unclosed
  | '!' :: c :: cs => if ['s', 'r', 'a'].contains c then .ok cs else .error .badConversion
  | cs => .ok cs

/-! ### All of a text -/

namespace Parse

variable (rules : Rules)

/-- Meets the fault of a text, if there is one. -/
def sound {α : Type} : Except TemplateFault α → Parse α
  | .ok a => return a
  | .error fault => refuse (.template fault)

/-- Reads pieces and expressions up to the end of a text or, inside a layout, to a closing brace; gives what
stands behind them. `line` tells the line on which a rest of the text begins, and `level` in how many
layouts it stands. The first argument bounds the number of steps. -/
def templateParts (raw : Bool) (line : List Char → Nat) : Nat → Nat → List Char → Parse (List Char)
  | 0, _, cs => return cs
  | steps + 1, level, cs => do
    let piece ← sound (readPiece raw (level = 0) .plain [] cs)
    match if raw then none else textFault? 0 piece.text with
    | some fault => refuse fault
    | none => pure ()
    match piece.endsDoubled, piece.rest with
    | true, rest => templateParts raw line steps level rest
    | false, '\x7b' :: rest =>
      if 2 ≤ level then refuse (.template .tooDeep)
      let (text, behind) ← sound (readEmbedded 0 [] [] [] rest)
      if text.all fun c => [' ', '\t', '\n', '\x0c'].contains c then
        match behind with
        | '\x7d' :: _ | [] => refuse (.template .empty)
        | c :: _ => refuse (.template (.emptyBefore c))
      let _ ← rules (.embedded (line piece.rest) (String.ofList text))
      let behind := if behind.head? == some '=' then behind.drop 1 else behind
      let behind ← sound (skipConversion behind)
      let behind ← match behind with
        | [':'] => refuse (.template .unclosed)
        | ':' :: layout => templateParts raw line steps (level + 1) layout
        | behind => pure behind
      match behind with
      | '\x7d' :: rest => templateParts raw line steps level rest
      | _ => refuse (.template .unclosed)
    | false, rest => return rest

/-- Looks through a text that begins on a line. -/
def template (raw : Bool) (line : Nat) (text : List Char) : Parse Unit := do
  let lineOf (rest : List Char) : Nat := line + text.count '\n' - rest.count '\n'
  let _ ← templateParts rules raw lineOf (text.length + 1) 0 text
  return

/-- A fault of an expression in a text, which may come from one further inside. -/
def embeddedFault (tokens : Tokens) : Fault → Fault
  | .embedded told fault => .embedded told fault
  | fault => .embedded (tokens.ending != .misspelled fault) fault

/-- Reads the expression in a text of its own, as if it stood in brackets. -/
def embedded (line : Nat) (text : String) (p : Parse Expression) : Parse Expression := fun _ s =>
  let tokens := tokens line ('(' :: text.toList ++ [')', '\n'])
  match tokens.read p with
  | .ok e => (.ok (some e), s)
  | .error fault => (.error (embeddedFault tokens fault), s)

end Parse

end VariantChess.Layout.Literal
