import VariantChess.Catalogue.Basic
import VariantChess.Perft

/-!
# Rulesets

A ruleset is a name, a catalogue, a starting board and a turn order. Every piece of the board has an
entry in the catalogue, and the turn order is not empty and names no side twice; `Ruleset.make`
refuses everything else.
-/

namespace VariantChess

structure Ruleset where
  name : String
  catalogue : Catalogue
  /-- The starting position. -/
  board : Board
  /-- The turn order. -/
  colors : List Color
  colors_ne_nil : colors ≠ []
  colors_nodup : colors.Nodup
  symbol_mem : ∀ p ∈ board.pieces, p.2.symbol ∈ catalogue.symbols

namespace Ruleset

/-- The ruleset of these parts. -/
def make (name : String) (catalogue : Catalogue) (board : Board) (colors : List Color) :
    Except Error Ruleset :=
  if empty : colors = [] then .error (.ruleset .noColors (some name))
  else if nodup : colors.Nodup then
    match known : board.pieces.find? fun p => !catalogue.symbols.contains p.2.symbol with
    | some p => .error (.ruleset (.strangePiece p.2.symbol) (some name))
    | none =>
      .ok {
        name, catalogue, board, colors
        colors_ne_nil := empty
        colors_nodup := nodup
        symbol_mem := by
          intro p hp
          simpa using List.find?_eq_none.1 known p hp }
  else .error (.ruleset .repeatedColor (some name))

/-- The side that moves after this one. -/
def nextColor (r : Ruleset) (color : Color) : Except Error Color :=
  match color.next? r.colors with
  | some next => .ok next
  | none => .error (.ruleset (.notPlaying color) (some r.name))

end Ruleset

end VariantChess
