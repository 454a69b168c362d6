import VariantChess.Journal

/-!
# Catalogues

A catalogue says how the pieces of each symbol behave: their rules, their value, whether they are
royal, and which hooks they call.
-/

namespace VariantChess

/-- What all pieces of a symbol have in common. -/
structure PieceKind where
  name : String
  value : Double := .zero
  rules : List Movement.Rule := []
  royal : Bool := false
  /-- The hook that runs after a move of the piece. -/
  afterMove : Option String := none
  /-- The hook that runs after a capture by the piece. -/
  afterCapture : Option String := none
  /-- The hook that grants the piece more destinations. -/
  extraMoves : Option String := none

/-- The kinds by symbol, in the order in which they were entered. -/
structure Catalogue where
  entries : List (String × PieceKind)

namespace Catalogue

def symbols (c : Catalogue) : List String := c.entries.map (·.1)

def find? (c : Catalogue) (symbol : String) : Option PieceKind :=
  (c.entries.find? fun e => e.1 == symbol).map (·.2)

/-- The kind of a symbol that must be there. -/
def lookup (c : Catalogue) (symbol : String) : Except Error PieceKind :=
  match c.find? symbol with
  | some kind => .ok kind
  | none => .error (.unknownPiece symbol)

/-- The entries in the order of their symbols. -/
def sorted (c : Catalogue) : List (String × PieceKind) :=
  sortStable (fun a b => a.1 < b.1) c.entries

end Catalogue

end VariantChess
