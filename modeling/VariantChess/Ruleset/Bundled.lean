import VariantChess.Ruleset.Description

/-!
# Bundled rulesets

The descriptions of the rulesets that come with the library, by name. A name is read as the path of a
file, without its ending, from the directory in which the descriptions are kept.
-/

namespace VariantChess

namespace Ruleset

/-- The description of a piece. -/
def describedPiece (name : String) (value : Int) (moves : String) (more : List (String × Datum)) :
    Datum :=
  .mapping ([(.text "name", .text name), (.text "value", .int value), (.text "moves", .text moves)] ++
    more.map fun e => (.text e.1, e.2))

/-- The description of a ruleset for white and black. -/
def described (name board : String) (pieces : List (String × Datum)) : Datum :=
  .mapping [
    (.text "name", .text name),
    (.text "colors", .list [.text "white", .text "black"]),
    (.text "board", .text board),
    (.text "pieces", .mapping (pieces.map fun e => (.text e.1, e.2)))]

/-- The king of every bundled ruleset. -/
def describedKing : Datum := describedPiece "King" 100 "1*" [("royal", .bool true)]

/-- The pawn, which is promoted on the last row. -/
def describedPawn : Datum := describedPiece "Pawn" 1 "o1>,oi2>,c1X>" [("after_move", .text "promote")]

/-- Orthodox chess. -/
def standardDescription : Datum :=
  described "Standard chess" "rnbqkbnr/pppppppp/8/8/8/8/PPPPPPPP/RNBQKBNR" [
    ("k", describedKing),
    ("q", describedPiece "Queen" 9 "n*" []),
    ("r", describedPiece "Rook" 5 "n+" []),
    ("b", describedPiece "Bishop" 3 "nX" []),
    ("n", describedPiece "Knight" 3 "~1/2" []),
    ("p", describedPawn)]

/-- The board of ten by eight with the archbishop (bishop and knight) and the chancellor (rook and
knight). -/
def capablancaDescription : Datum :=
  described "Capablanca chess" "rnabqkbcnr/pppppppppp/10/10/10/10/PPPPPPPPPP/RNABQKBCNR" [
    ("k", describedKing),
    ("q", describedPiece "Queen" 9 "n*" []),
    ("c", describedPiece "Chancellor" 8 "n+,~1/2" []),
    ("a", describedPiece "Archbishop" 7 "nX,~1/2" []),
    ("r", describedPiece "Rook" 5 "n+" []),
    ("b", describedPiece "Bishop" 3 "nX" []),
    ("n", describedPiece "Knight" 3 "~1/2" []),
    ("p", describedPawn)]

/-- A small board with riders and screen-jumpers and without pawns. -/
def fairySkirmishDescription : Datum :=
  let side (upper : Bool) : String :=
    if upper then "\x7bCA\x7d\x7bNI\x7dGKG\x7bNI\x7d\x7bCA\x7d"
    else "\x7bca\x7d\x7bni\x7dgkg\x7bni\x7d\x7bca\x7d"
  described "Fairy skirmish" (side false ++ "/7/7/7/7/7/" ++ side true) [
    ("k", describedKing),
    ("g", describedPiece "Gryphon" 6 "1X.n+" []),
    ("ni", describedPiece "Nightrider" 5 "&1/2" []),
    ("ca", describedPiece "Cannon" 4 "^n+" [])]

/-- The bundled descriptions in the order of their names. -/
def bundledDescriptions : List (String × Datum) :=
  [("capablanca", capablancaDescription), ("fairy_skirmish", fairySkirmishDescription),
   ("standard", standardDescription)]

def bundledNames : List String := bundledDescriptions.map (·.1)

end Ruleset

namespace Shelf

variable (shelf : Shelf)

/-- Where the bundled descriptions are kept. -/
def steps : List (List Char) := shelf.place.map String.toList ++ ["rulesets".toList]

/-- The name of the file of a description. -/
def fileName (name : String) : List Char := (name ++ ".yaml").toList

/-- The place of a description. -/
def placeOf (name : String) : Location := .near 0 (shelf.steps ++ [fileName name])

/-- The library's own files. -/
def files : Files where
  entries := Ruleset.bundledNames.map fun name => ((shelf.placeOf name).path, "")
  made := shelf.directories.flatMap fun path =>
    let steps := pathSteps path.toList
    (List.range steps.length).map fun i =>
      (.near 0 (shelf.place.map String.toList ++ steps.take (i + 1)), .directory)

/-- The place that a name leads to. -/
def find (name : String) : Except FileFault Location :=
  let path := fileName name
  let start := if path.head? == some '/' then Location.rooted [] else .near 0 shelf.steps
  if (pathFault? name).isSome then .error .missing else shelf.files.walk start (path.splitOn '/')

end Shelf

namespace Ruleset

/-- The bundled ruleset of this name. -/
def bundled (shelf : Shelf) (name : String) : Report Ruleset :=
  let found := match shelf.find name with
    | .ok place => bundledDescriptions.find? fun e => shelf.placeOf e.1 == place
    | .error _ => none
  match shelf.find name, found with
  | .error .nameTooLong, _ => .fail (.inaccessible .nameTooLong (name ++ ".yaml"))
  | _, none => .fail (.ruleset (.unknownName name bundledNames) none)
  | _, some (file, description) => do
    let ruleset ← ofDatum description (some file)
    Report.log (.loadedRuleset ruleset.name file)
    return ruleset

end Ruleset

end VariantChess
