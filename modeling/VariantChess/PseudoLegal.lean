import VariantChess.Targets

/-!
# Pseudo-legal moves

The moves of a side without regard to its royal pieces. Rules give the geometric moves; a piece whose
kind names an extra-moves hook may go to more squares, which the hook is asked for once per piece, in
the order of the board. A hook that fails, or answers with anything but squares of the board, ends the
generation with an error that carries the moves found before.
-/

namespace VariantChess

/-- Answers a hook id and an origin with destinations. -/
abbrev ExtraMoves := String → Square → Board → Report (List Datum)

/-- The geometric moves of a side, piece by piece. -/
def geometricMoves (c : Catalogue) (b : Board) (color : Color) : Except Error (List Move) :=
  gather
    (fun (origin, piece) =>
      match c.lookup piece.symbol with
      | .error e => .error e
      | .ok kind => kind.moves b piece origin)
    (b.piecesOf color)

/-- The pieces of a side whose kind names an extra-moves hook, with its id. -/
def askers (c : Catalogue) (b : Board) (color : Color) : List (Square × String) :=
  (b.piecesOf color).filterMap fun (origin, piece) =>
    ((c.find? piece.symbol).bind (·.extraMoves)).map fun id => (origin, id)

/-- The moves that an answer grants; the origin itself is no move. -/
def grantedMoves (b : Board) (id : String) (origin : Square) (found : List Move) :
    List Datum → Except Error (List Move)
  | [] => .ok []
  | answer :: answers =>
    match answer.square? with
    | some s =>
      if b.contains s then
        (grantedMoves b id origin found answers).map fun moves =>
          if s = origin then moves else ⟨origin, s⟩ :: moves
      else .error (.hook (.badDestination id answer) (some id) (some origin) found)
    | none => .error (.hook (.badDestination id answer) (some id) (some origin) found)

/-- The failure of an extra-moves hook: its own error completed with what it leaves open, any other
error wrapped and logged. -/
def failedAsking (id : String) (origin : Square) (found : List Move) : Error → Report (List Move)
  | .hook fault hookId hookOrigin _ =>
    .fail (.hook fault (some ((hookId.filter (· ≠ "")).getD id)) (some (hookOrigin.getD origin)) found)
  | e => do
    .log (.extraMovesFailed id origin e.message)
    .fail (.hook (.extraMovesFailed id e.message) (some id) (some origin) found)

/-- The moves that the hook grants a piece. -/
def askedMoves (hook : ExtraMoves) (b : Board) (origin : Square) (id : String) (found : List Move) :
    Report (List Move) :=
  let answer := hook id origin b
  match answer.result with
  | .ok answers => ⟨grantedMoves b id origin found answers, answer.notes⟩
  | .error e =>
    let failure := failedAsking id origin found e
    ⟨failure.result, answer.notes ++ failure.notes⟩

/-- The moves found so far together with those that the hook grants the remaining pieces. -/
def extendedMoves (hook : ExtraMoves) (b : Board) :
    List (Square × String) → List Move → Report (List Move)
  | [], found => pure found
  | (origin, id) :: rest, found => do
    let moves ← askedMoves hook b origin id found
    extendedMoves hook b rest (Move.sort (found ++ moves))

/-- The pseudo-legal moves of a side in increasing order, with those of the hook if there is one. -/
def pseudoLegalMoves (c : Catalogue) (b : Board) (color : Color) (hook : Option ExtraMoves) :
    Report (List Move) := do
  let moves ← Report.of (geometricMoves c b color)
  match hook with
  | none => return Move.sort moves
  | some hook => extendedMoves hook b (askers c b color) (Move.sort moves)

end VariantChess
