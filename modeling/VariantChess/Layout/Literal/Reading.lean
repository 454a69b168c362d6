import VariantChess.Layout.Literal.Parse

/-!
# Reading all of a text

`Tokens.read` reads tokens twice if they are not what they should be: first to find that out, and then to
find the fault to be shown. Not the first fault is: a fault of spelling further behind counts more than one
of how tokens follow each other.
-/

namespace VariantChess.Layout.Literal.Tokens

variable {α : Type} (tokens : Tokens)

/-- The last token that has been looked at. -/
def lastSeen? (s : Progress) : Option Lexeme := tokens.lexemes[s.fetched - 1]?

/-- The bracket that is open at the end of tokens on a line before that of the last one that has been
looked at. -/
def openBefore? (s : Progress) : Option Char :=
  match tokens.ending, tokens.unclosed with
  | .broken _, (bracket, line) :: _ =>
    if (tokens.lastSeen? s).any fun l => line < l.line then some bracket else none
  | _, _ => none

/-- The fault of tokens in which one has been found, if any: a fault of spelling behind it counts more, and so
does an open bracket unless another fault has been found at the end. -/
def faultOver (s : Progress) (found : Option Fault) : Fault :=
  let atEnd := found.isSome && (tokens.lastSeen? s).any (·.isLast)
  match tokens.ending, tokens.openBefore? s with
  | .misspelled spelling, _ => spelling
  | _, some bracket => if atEnd then found.getD .malformed else .unclosed bracket
  | _, none => found.getD .malformed

/-- What a reader finds in tokens. -/
def read (p : Parse α) : Except Fault α :=
  match p tokens { explain := false } with
  | (.ok (some a), _) => .ok a
  | (.error fault, s) => .error (tokens.faultOver s (some fault))
  | (.ok none, s) =>
    match p tokens { explain := true, fetched := s.fetched } with
    | (.error fault, s) => .error (tokens.faultOver s (some fault))
    | (_, s') =>
      if (tokens.lastSeen? s).any fun l => l.token = .indent then .error .indented
      else .error (tokens.faultOver s' none)

end VariantChess.Layout.Literal.Tokens
