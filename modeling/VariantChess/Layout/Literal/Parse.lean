import Std.Data.HashMap
import VariantChess.Layout.Literal.Expression
import VariantChess.Layout.Literal.Token

/-!
# Reading tokens

A `Parse` reads something from a place among tokens on, or finds that it is not there, or meets a fault. It
keeps track of the place, of how many tokens have been looked at, and of what some rules have been found to
give at a place, since they are asked again and again. Expressions are read twice: once to find one, and if
there is none once more to explain what was meant.
-/

namespace VariantChess.Layout.Literal

/-- The rules whose results are remembered. -/
inductive Rule where
  | expression
  | starredOrPlain
  | disjunction
  | conjunction
  | inversion
  /-- Operators between two values, from those that bind least on. -/
  | binary (level : Nat)
  | factor
  | awaitable
  | primary
  | arguments
  /-- What is amiss with a name for a value. -/
  | misnamed
  /-- What members of something else can be given to. -/
  | target
  | plainTarget
  /-- What a target is a part of. -/
  | targetOwner
  /-- An expression in a text, and its line. -/
  | embedded (line : Nat) (text : String)
deriving DecidableEq, Hashable, Repr

/-- How far reading has come. -/
structure Progress where
  explain : Bool
  position : Nat := 0
  /-- The number of tokens that have been looked at. -/
  fetched : Nat := 0
  known : Std.HashMap (Rule × Nat) (Option (Expression × Nat)) := {}

/-- Reads something from a place among tokens on, if it is there. -/
def Parse (α : Type) := Tokens → Progress → Except Fault (Option α) × Progress

namespace Parse

variable {α β : Type}

instance : Monad Parse where
  pure a := fun _ s => (.ok (some a), s)
  bind x f := fun tokens s =>
    match x tokens s with
    | (.ok (some a), s) => f a tokens s
    | (.ok none, s) => (.ok none, s)
    | (.error fault, s) => (.error fault, s)

/-- What is never there. -/
def absent : Parse α := fun _ s => (.ok none, s)

/-- Meets a fault. -/
def refuse (fault : Fault) : Parse α := fun _ s => (.error fault, s)

/-- The next token, which stays. -/
def next : Parse Lexeme := fun tokens s =>
  let s := { s with fetched := max s.fetched (s.position + 1) }
  match tokens.lexemes[s.position]?, tokens.ending with
  | some l, _ => (.ok (some l), s)
  | none, .finished => (.ok none, s)
  | none, .misspelled fault | none, .broken fault => (.error fault, s)

/-- Goes on behind the next token. -/
def advance : Parse Unit := fun _ s => (.ok (some ()), { s with position := s.position + 1 })

/-- How many brackets are open behind the last token that was read. -/
def depth : Parse Nat := fun tokens s =>
  (.ok (some (((tokens.lexemes[s.position - 1]?).map (·.depth)).getD 0)), s)

/-- The result, or nothing, in which case nothing has been read. -/
def optional (p : Parse α) : Parse (Option α) := fun tokens s =>
  match p tokens s with
  | (.ok none, s') => (.ok (some none), { s' with position := s.position })
  | (.ok a, s') => (.ok (some a), s')
  | (.error fault, s') => (.error fault, s')

/-- The first of some that is there. -/
def firstOf : List (Parse α) → Parse α
  | [] => absent
  | p :: ps => do
    match ← optional p with
    | some a => return a
    | none => firstOf ps

/-- Looks whether something is there without reading it. -/
def ahead (p : Parse α) : Parse Unit := fun tokens s =>
  match p tokens s with
  | (.ok a, s') => (.ok (a.map fun _ => ()), { s' with position := s.position })
  | (.error fault, s') => (.error fault, s')

/-- Looks whether something is not there. -/
def notAhead (p : Parse α) : Parse Unit := do
  match ← optional (ahead p) with
  | some _ => absent
  | none => return

/-- As many as are there, at most the given number. -/
def upTo : Nat → Parse α → Parse (List α)
  | 0, _ => return []
  | count + 1, p => do
    match ← optional p with
    | none => return []
    | some a => return a :: (← upTo count p)

/-- As many as are there. -/
def many (p : Parse α) : Parse (List α) := fun tokens => upTo (tokens.lexemes.size + 1) p tokens

/-- As many as are there, at least one. -/
def oneOrMore (p : Parse α) : Parse (List α) := do
  let a ← p
  return a :: (← many p)

/-- The result of as many steps from a first result on as there are, at most the given number. -/
def growUpTo (step : α → Parse α) : Nat → α → Parse α
  | 0, a => return a
  | count + 1, a => do
    match ← optional (step a) with
    | none => return a
    | some a => growUpTo step count a

/-- The result of as many steps from a first result on as there are. -/
def grow (step : α → Parse α) (a : α) : Parse α :=
  fun tokens => growUpTo step (tokens.lexemes.size + 1) a tokens

/-- There only when faults are being explained. -/
def explaining : Parse Unit := fun _ s => (.ok (if s.explain then some () else none), s)

/-- Reads without explaining faults. -/
def quietly (p : Parse α) : Parse α := fun tokens s =>
  let (result, s') := p tokens { s with explain := false }
  (result, { s' with explain := s.explain })

/-- The result of a rule, which is worked out once for a place. -/
def remember (rule : Rule) (p : Parse Expression) : Parse Expression := fun tokens s =>
  let key := (rule, s.position)
  match s.known[key]? with
  | some (some (e, position)) => (.ok (.some e), { s with position })
  | some none => (.ok none, s)
  | none =>
    match p tokens s with
    | (.ok result, s') =>
      let found := result.map fun e => (e, s'.position)
      (.ok result, { s' with known := s'.known.insert key found })
    | (.error fault, s') => (.error fault, s')

/-! ### Tokens -/

/-- The given token. -/
def token (t : Token) : Parse Unit := do
  if (← next).token = t then advance else absent

def mark (s : String) : Parse Unit := token (.mark s)

/-- A word that is no name. -/
def word (s : String) : Parse Unit := token (.name s)

/-- One of these marks. -/
def oneOf (marks : List String) : Parse Unit := do
  match (← next).token with
  | .mark s => if marks.contains s then advance else absent
  | _ => absent

/-- The words that are no names. -/
def keywords : List String :=
  ["False", "None", "True", "and", "as", "assert", "async", "await", "break", "class", "continue",
   "def", "del", "elif", "else", "except", "finally", "for", "from", "global", "if", "import", "in",
   "is", "lambda", "nonlocal", "not", "or", "pass", "raise", "return", "try", "while", "with",
   "yield"]

def name : Parse String := do
  match (← next).token with
  | .name s =>
    if keywords.contains s then absent
    else do
      advance
      return s
  | _ => absent

/-- A name with which a word that is one of its own at some places may begin. -/
def softKeyword : Parse Unit := do
  match (← next).token with
  | .name s =>
    if ["_", "case", "match"].any fun word => s.toList.isPrefixOf word.toList then advance else absent
  | _ => absent

/-- A text or bytes. -/
def text : Parse Token := do
  let token := (← next).token
  match token with
  | .text .. | .template .. => do
    advance
    return token
  | _ => absent

/-- Some with commas between them. -/
def separated (p : Parse α) : Parse (List α) := do
  let a ← p
  return a :: (← many do
    mark ","
    p)

/-- What rules give, by which expressions inside others are read. -/
abbrev Rules := Rule → Parse Expression

end Parse

end VariantChess.Layout.Literal
