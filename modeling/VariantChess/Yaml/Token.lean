import VariantChess.Yaml.Block
import VariantChess.Yaml.Plain
import VariantChess.Yaml.Quoted
import VariantChess.Yaml.Tag

/-!
# Tokens

A text is cut into tokens: scalars, marks, and the beginnings and ends of blocks, which nothing but
indentation shows. That a scalar or a bracketed value is a key shows only when the colon behind it is
reached, and a candidate is remembered until then; the colon must be on the same line and not too far
away. A scan goes no further than it must: `Scan.fill` finds tokens until the first of them can no longer
turn out to be a key, so that a fault further on does not count before what it comes to is asked for.
-/

namespace VariantChess.Yaml

inductive Token where
  | directive (d : Directive)
  | documentStart
  | documentEnd
  | sequenceStart
  | mappingStart
  | blockEnd
  | openBracket
  | closeBracket
  | openBrace
  | closeBrace
  | item
  | comma
  | key
  | value
  | reference (name : String)
  | anchor (name : String)
  | tag (t : WrittenTag)
  | scalar (plain : Bool) (text : List Char)

/-- A place at which a key may have begun. -/
structure Candidate where
  /-- The number of tokens before it. -/
  place : Nat
  /-- Whether nothing but a key may stand there. -/
  needed : Bool
  index : Nat
  line : Nat
  column : Nat

/-- What is known between two tokens. -/
structure Scan where
  cursor : Cursor
  /-- The tokens that have been found and not yet taken. -/
  pending : List Token := []
  /-- The number of tokens that have been taken. -/
  taken : Nat := 0
  /-- Whether the end of the text has been reached. -/
  finished : Bool := false
  /-- The columns of the open blocks, the innermost first. -/
  columns : List Nat := []
  /-- The candidate outside and inside every open bracket, the innermost first. -/
  candidates : List (Option Candidate) := [none]
  /-- Whether a key or an item of a block may stand here. -/
  keyAllowed : Bool := true

namespace Scan

variable (s : Scan)

/-- Whether a bracket is open. -/
def inFlow : Bool := 1 < s.candidates.length

/-- The scan with more tokens. -/
def found (tokens : List Token) : Scan := { s with pending := s.pending ++ tokens }

/-- The scan with one more token, and the cursor behind `width` characters. -/
def emit (t : Token) (width : Nat) : Scan := { s.found [t] with cursor := s.cursor.skip width }

/-- The scan with a token that has been read. -/
def put (t : Token) (behind : Cursor) : Scan := { s.found [t] with cursor := behind }

def allowKey (allowed : Bool) : Scan := { s with keyAllowed := allowed }

/-! ### Blocks -/

/-- Ends the innermost blocks whose columns fail a test. -/
def closeBlocks (stays : Nat → Bool) : Scan :=
  let ended := (s.columns.takeWhile fun column => !stays column).length
  { s.found (List.replicate ended .blockEnd) with columns := s.columns.drop ended }

/-- Whether a block that begins in the column lies inside all open ones. -/
def isDeeper (column : Nat) : Bool := s.columns.head?.all (· < column)

/-- Begins a block in the column, unless one is open there. -/
def openBlock (column : Nat) (t : Token) : Scan :=
  if s.isDeeper column then { s.found [t] with columns := column :: s.columns } else s

/-! ### Keys -/

/-- The candidate outside all brackets that are not open. -/
def candidate : Option Candidate := s.candidates.head?.join

def setCandidate (k : Option Candidate) : Scan := { s with candidates := k :: s.candidates.drop 1 }

/-- Whether a colon at the cursor would come too late for the candidate. -/
def isStale (k : Candidate) : Bool :=
  k.line != s.cursor.line || k.index + 1024 < s.cursor.index

/-- Forgets the candidates for which it is too late. -/
def dropStale : Except Fault Scan :=
  let late := s.candidates.filterMap fun k => k.filter s.isStale
  if late.any (·.needed) then .error .malformed
  else .ok { s with candidates := s.candidates.map fun k => k.filter fun k => !s.isStale k }

/-- Forgets the candidate here. -/
def dropKey : Except Fault Scan :=
  if s.candidate.any (·.needed) then .error .malformed else .ok (s.setCandidate none)

/-- Remembers that a key may begin at the cursor. -/
def saveKey : Except Fault Scan :=
  if s.keyAllowed then
    let c := s.cursor
    let needed := !s.inFlow && s.columns.head? == some c.column
    let place := s.taken + s.pending.length
    s.dropKey.map fun s => s.setCandidate (some ⟨place, needed, c.index, c.line, c.column⟩)
  else .ok s

/-- The scan with the tokens of a key where the candidate was. -/
def insertKey (k : Candidate) : Scan :=
  let before := k.place - s.taken
  let opens := !s.inFlow && s.isDeeper k.column
  { s with
    pending := s.pending.take before ++ (if opens then [.mappingStart] else []) ++
      .key :: s.pending.drop before
    columns := if opens then k.column :: s.columns else s.columns }

/-! ### Marks -/

/-- A line between documents. -/
def documentMark (t : Token) : Except Fault Scan :=
  (s.closeBlocks fun _ => false).dropKey.map fun s => (s.allowKey false).emit t 3

def bracketStart (t : Token) : Except Fault Scan :=
  s.saveKey.map fun s => ({ s with candidates := none :: s.candidates }.allowKey true).emit t 1

def bracketEnd (t : Token) : Except Fault Scan :=
  s.dropKey.map fun s => ({ s with candidates := s.candidates.drop 1 }.allowKey false).emit t 1

def commaMark : Except Fault Scan :=
  s.dropKey.map fun s => (s.allowKey true).emit .comma 1

/-- The scan with a block begun at the cursor, where one may begin. -/
def beginBlock (t : Token) : Except Fault Scan :=
  if s.inFlow then .ok s
  else if s.keyAllowed then .ok (s.openBlock s.cursor.column t)
  else .error .malformed

def itemMark : Except Fault Scan := do
  let s ← s.beginBlock .sequenceStart
  s.dropKey.map fun s => (s.allowKey true).emit .item 1

def keyMark : Except Fault Scan := do
  let s ← s.beginBlock .mappingStart
  s.dropKey.map fun s => (s.allowKey !s.inFlow).emit .key 1

def valueMark : Except Fault Scan :=
  match s.candidate with
  | some k => .ok ((((s.insertKey k).setCandidate none).allowKey false).emit .value 1)
  | none => (s.beginBlock .mappingStart).map fun s => (s.allowKey !s.inFlow).emit .value 1

/-! ### Tokens with a text -/

/-- A token at whose place a key may begin, read by a reader. -/
def word {α : Type} (read : Cursor → Reading α) (token : α → Token) : Except Fault Scan := do
  let s ← s.saveKey
  let (a, behind) ← read s.cursor
  return (s.allowKey false).put (token a) behind

def block : Except Fault Scan := do
  let s ← s.dropKey
  let column := (s.columns.head?.map (· + 1)).getD 0
  let (text, behind) ← blockScalar column s.cursor
  return (s.allowKey true).put (.scalar false text) behind

def plain : Except Fault Scan :=
  s.saveKey.map fun s =>
    let indent := (s.columns.head?.map (· + 1)).getD 0
    let p := plainScalar s.inFlow indent s.cursor
    (s.allowKey p.endsLine).put (.scalar true p.text) p.behind

/-- The scan with the next token, which begins at the cursor. -/
def next : Except Fault Scan :=
  let c := s.cursor
  let marks (rest : List Char) : Bool := s.inFlow || blankNext rest
  match c.rest with
  | [] => .ok s
  | ch :: rest =>
    if ch = '%' && c.column = 0 then do
      let s ← (s.closeBlocks fun _ => false).dropKey
      let (d, behind) ← directive c
      return (s.allowKey false).put (.directive d) behind
    else if marksDocument c then s.documentMark (if ch = '-' then .documentStart else .documentEnd)
    else if ch = '[' then s.bracketStart .openBracket
    else if ch = '\x7b' then s.bracketStart .openBrace
    else if ch = ']' then s.bracketEnd .closeBracket
    else if ch = '\x7d' then s.bracketEnd .closeBrace
    else if ch = ',' then s.commaMark
    else if ch = '-' && blankNext rest then s.itemMark
    else if ch = '?' && marks rest then s.keyMark
    else if ch = ':' && marks rest then s.valueMark
    else if ch = '*' then s.word anchorName .reference
    else if ch = '&' then s.word anchorName .anchor
    else if ch = '!' then s.word writtenTag .tag
    else if (ch = '|' || ch = '>') && !s.inFlow then s.block
    else if ch = '\'' || ch = '"' then s.word quotedScalar (.scalar false)
    else if opensPlain s.inFlow c.rest then s.plain
    else .error .malformed

/-- The scan at the next content, with the blocks ended that end before it. -/
def toContent : Except Fault Scan :=
  let cursor := s.cursor.toContent (s.cursor.rest.length + 1)
  let allowed := s.keyAllowed || (!s.inFlow && cursor.line != s.cursor.line)
  ({ s with cursor, keyAllowed := allowed } : Scan).dropStale.map fun s =>
    if s.inFlow then s else s.closeBlocks (· ≤ s.cursor.column)

/-- The scan at the end of the text. -/
def finish : Except Fault Scan :=
  (s.closeBlocks fun _ => false).dropKey.map fun s => { s with finished := true }

/-! ### Finding and taking tokens -/

/-- The start of a text. -/
def start (text : List Char) : Scan := { cursor := .start text }

/-- The scan one token further, or at the end. -/
def advance : Except Fault Scan := do
  let s ← s.toContent
  if s.cursor.rest.isEmpty then s.finish else s.next

/-- Whether the first token is not known yet, because none has been found or because it may be the
beginning of a key. -/
def isOpen : Bool :=
  !s.finished && (s.pending.isEmpty ||
    (s.candidates.filterMap fun k => k.map (·.place)).min? == some s.taken)

/-- The scan with its first token known, or at the end. The first argument bounds the number of steps. -/
def fillFrom : Nat → Scan → Except Fault Scan
  | 0, s => .ok s
  | n + 1, s => do
    let s ← if s.finished || s.pending.isEmpty then pure s else s.dropStale
    if s.isOpen then fillFrom n (← s.advance) else return s

/-- The scan with its first token known, or at the end. -/
def fill : Except Fault Scan := fillFrom (s.cursor.rest.length + 2) s

/-- The scan without its first token. -/
def take : Scan := { s with pending := s.pending.drop 1, taken := s.taken + 1 }

end Scan

end VariantChess.Yaml
