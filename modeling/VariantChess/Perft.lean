import VariantChess.Legal

/-!
# Counting lines of play

`perft` counts the lines of legal moves of a given length, the sides moving in turn.
-/

namespace VariantChess

/-- The color behind this one in the turn order, which starts over at its end. -/
def Color.next? (colors : List Color) (color : Color) : Option Color :=
  if colors.contains color then colors[(colors.idxOf color + 1) % colors.length]? else none

/-- The sum of a count over a list. -/
def total {α : Type} (count : α → Except Error Nat) : List α → Except Error Nat
  | [] => .ok 0
  | a :: as =>
    match count a with
    | .error e => .error e
    | .ok n => (total count as).map (n + ·)

/-- The number of lines of `depth` legal moves, `color` moving first. -/
def perft (c : Catalogue) (colors : List Color) : Nat → Board → Color → Except Error Nat
  | 0, _, _ => .ok 1
  | depth + 1, b, color =>
    match color.next? colors with
    | none => .error .outOfTurn
    | some next =>
      match geometricMoves c b color with
      | .error e => .error e
      | .ok moves =>
        total
          (fun m =>
            match b.play m with
            | .error fault => .error (.move fault (some m))
            | .ok (after, _) =>
              match isInCheck c after color with
              | .error e => .error e
              | .ok true => .ok 0
              | .ok false => perft c colors depth after next)
          (Move.sort moves)

/-- The number of lines of a length that may be negative. No line has a negative length, but all
lines are followed to their ends to find that out; `bound` bounds their lengths. -/
def perftAt (bound : Nat) (c : Catalogue) (colors : List Color) (depth : Int) (b : Board)
    (color : Color) : Except Error Nat :=
  perft c colors (if depth < 0 then bound else depth.toNat) b color

end VariantChess
