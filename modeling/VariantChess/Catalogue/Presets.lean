import VariantChess.Catalogue.Basic

/-!
# Presets

The movement of the orthodox pieces and of some of the best-known fairy pieces, and the catalogue of
orthodox chess.
-/

namespace VariantChess.Catalogue

/-- Movement by the name of the piece. -/
def presets : List (String × String) :=
  [("KING", "1*"), ("QUEEN", "n*"), ("ROOK", "n+"), ("BISHOP", "nX"), ("KNIGHT", "~1/2"),
   ("PAWN", "o1>,oi2>,c1X>"), ("AMAZON", "n*,~1/2"), ("MARSHAL", "n+,~1/2"),
   ("CARDINAL", "nX,~1/2"), ("CENTAUR", "1*,~1/2"), ("ADMIRAL", "n+,1*"),
   ("MISSIONARY", "nX,1+"), ("CANNON", "^n+"), ("NIGHTRIDER", "&1/2"), ("GRYPHON", "1X.n+")]

def preset? (name : String) : Option String := presets.lookup name

/-- A kind with the given movement. -/
def orthodoxKind (name : String) (value : Int) (movement : String) (royal : Bool) :
    Report PieceKind := do
  let rules ← Movement.compileLogged movement
  return { name, value := (Double.ofInt? value).getD .zero, rules, royal }

/-- The six orthodox pieces; the king is royal. -/
def standard : Report Catalogue := do
  let k ← orthodoxKind "King" 100 "1*" true
  let q ← orthodoxKind "Queen" 9 "n*" false
  let r ← orthodoxKind "Rook" 5 "n+" false
  let b ← orthodoxKind "Bishop" 3 "nX" false
  let n ← orthodoxKind "Knight" 3 "~1/2" false
  let p ← orthodoxKind "Pawn" 1 "o1>,oi2>,c1X>" false
  return ⟨[("k", k), ("q", q), ("r", r), ("b", b), ("n", n), ("p", p)]⟩

end VariantChess.Catalogue
