import VariantChess.Text.Case
import VariantChess.Text.Character

/-!
# Colors

The three sides, in the order in which they are listed. White starts at the bottom of the board and
moves up; the other two move down.
-/

namespace VariantChess

inductive Color where
  | white
  | black
  | yellow
deriving DecidableEq, Repr

namespace Color

/-- All colors in their order. -/
def all : List Color := [white, black, yellow]

/-- The place of the color in the order. -/
def ordinal : Color → Nat
  | white => 0
  | black => 1
  | yellow => 2

/-- The row step of a forward move; rows are counted from the top. -/
def forward : Color → Int
  | white => -1
  | black => 1
  | yellow => 1

def name : Color → String
  | white => "white"
  | black => "black"
  | yellow => "yellow"

instance : ToString Color := ⟨name⟩

/-- The color of this name, whatever its case and the blanks around it. -/
def named? (name : String) : Option Color :=
  match Text.upper (Text.strip name.toList) with
  | ['W', 'H', 'I', 'T', 'E'] => some white
  | ['B', 'L', 'A', 'C', 'K'] => some black
  | ['Y', 'E', 'L', 'L', 'O', 'W'] => some yellow
  | _ => none

end Color

end VariantChess
