import VariantChess.Color
import VariantChess.Movement.Distance

/-!
# Headings

The directions that a notation names. Forward and backward are seen from the moving side.
-/

namespace VariantChess.Movement

inductive Heading where
  | all
  | orthogonal
  | forward
  | backward
  | sideways
  | diagonal
  | diagonalForward
  | diagonalBackward
  | hippogonal
deriving DecidableEq, Repr

namespace Heading

def orthogonalSteps : List Step := [⟨1, 0⟩, ⟨-1, 0⟩, ⟨0, 1⟩, ⟨0, -1⟩]

def diagonalSteps : List Step := [⟨1, 1⟩, ⟨-1, 1⟩, ⟨-1, -1⟩, ⟨1, -1⟩]

/-- The single steps of a heading. The hippogonal one takes them from its distance, which must be a
leap. -/
def steps? (h : Heading) (color : Color) (distance : Distance) : Option (List Step) :=
  let f := color.forward
  match h with
  | all => some (orthogonalSteps ++ diagonalSteps)
  | orthogonal => some orthogonalSteps
  | forward => some [⟨0, f⟩]
  | backward => some [⟨0, -f⟩]
  | sideways => some [⟨1, 0⟩, ⟨-1, 0⟩]
  | diagonal => some diagonalSteps
  | diagonalForward => some [⟨1, f⟩, ⟨-1, f⟩]
  | diagonalBackward => some [⟨1, -f⟩, ⟨-1, -f⟩]
  | hippogonal =>
    match distance with
    | .hippogonal m n => some (Distance.leaps m n)
    | _ => none

/-- The token that names the heading; the hippogonal one goes without saying and shows as `/`. -/
def token : Heading → String
  | all => "*"
  | orthogonal => "+"
  | forward => ">"
  | backward => "<"
  | sideways => "="
  | diagonal => "X"
  | diagonalForward => "X>"
  | diagonalBackward => "X<"
  | hippogonal => "/"

end Heading

end VariantChess.Movement
