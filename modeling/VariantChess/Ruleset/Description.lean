import VariantChess.Ruleset.Basic

/-!
# Descriptions of rulesets

A ruleset is described by a mapping with its name, its pieces, its board and optionally its colors; a
piece by a mapping with its moves and optionally a name, a value, whether it is royal, and the hooks
that it calls. The checks are made in a fixed order, and the first that fails is the error.
-/

namespace VariantChess

namespace Ruleset

/-- The refusal of a description for a fault whose wording shows these values, if they can be written. -/
def refuse {α : Type} (values : List Datum) (fault : RulesetFault) (source : Option String) : Report α :=
  if Datum.areWritable values then .fail (.ruleset fault source) else .fail .unwritten

/-- The hook id under a key of a piece; null is none. -/
def hookOf? (symbol : String) (source : Option String) (entries : List (Datum × Datum))
    (occasion : Occasion) : Except Error (Option String) :=
  match Datum.lookup? entries occasion.key with
  | none | some .null => .ok none
  | some (.text id) => .ok (some id)
  | some _ => .error (.ruleset (.badHook symbol occasion) source)

/-- The name of a piece; its symbol without one. -/
def nameOf (symbol : String) : Option Datum → Except Error String
  | none => .ok symbol
  | some name => if name.isWritable then .ok name.plain else .error .unwritten

/-- The value of a piece. -/
def valueOf (symbol : String) (source : Option String) : Option Datum → Except Error Double
  | none => .ok .zero
  | some (.int n) =>
    match Double.ofInt? n with
    | some value => .ok value
    | none => .error .tooLarge
  | some (.float x) => .ok x
  | some _ => .error (.ruleset (.badValue symbol) source)

/-- Whether the value of a piece is a number at all. -/
def isNumeric : Option Datum → Bool
  | none | some (.int _) | some (.float _) => true
  | _ => false

/-- Compiles the moves of a piece for a ruleset. -/
def rulesOf (symbol : String) (source : Option String) (moves : String) :
    Report (List Movement.Rule) :=
  let compiled := Movement.compileLogged moves
  match compiled.result with
  | .error (.movement fault text offset) =>
    ⟨.error (.ruleset (.badMovement symbol fault text offset) source), compiled.notes⟩
  | _ => compiled

/-- The keys of the description of a piece. -/
def pieceKeys : List String :=
  ["name", "value", "moves", "royal", "after_move", "after_capture", "extra_moves"]

/-- The kind that a mapping describes. -/
def kindOf (symbol : String) (source : Option String) (entries : List (Datum × Datum)) :
    Report PieceKind := do
  let fail (fault : RulesetFault) : Report PieceKind := .fail (.ruleset fault source)
  let strange := Datum.strangeKeys pieceKeys entries
  if !strange.isEmpty then
    refuse (Datum.strangers pieceKeys entries) (.unknownPieceKeys symbol strange) source
  else
    match Datum.lookup? entries "moves" with
    | some (.text moves) =>
      let value := Datum.lookup? entries "value"
      if !isNumeric value then fail (.badValue symbol)
      else
        match (Datum.lookup? entries "royal").getD (.bool false) with
        | .bool royal => do
          let afterMove ← Report.of (hookOf? symbol source entries .afterMove)
          let afterCapture ← Report.of (hookOf? symbol source entries .afterCapture)
          let extraMoves ← Report.of (hookOf? symbol source entries .extraMoves)
          let name ← Report.of (nameOf symbol (Datum.lookup? entries "name"))
          let value ← Report.of (valueOf symbol source value)
          let rules ← rulesOf symbol source moves
          return { name, value, rules, royal, afterMove, afterCapture, extraMoves }
        | _ => fail (.badRoyal symbol)
    | _ => fail (.noMoves symbol)

/-- The kinds that the entries describe, by symbol. -/
def kindsOf (source : Option String) : List (Datum × Datum) → Report (List (String × PieceKind))
  | [] => pure []
  | (key, value) :: rest =>
    match key with
    | .text symbol =>
      if !(Text.isWord symbol.toList && Text.isLower symbol.toList) then
        refuse [key] (.badSymbol key) source
      else
        match value.opened with
        | .mapping entries => do
          let kind ← kindOf symbol source entries
          let kinds ← kindsOf source rest
          return (symbol, kind) :: kinds
        | _ => .fail (.ruleset (.pieceNotMapping symbol) source)
    | _ => refuse [key] (.badSymbol key) source

/-- The board that a text describes, on which only known symbols may stand. -/
def boardOf (source : Option String) (catalogue : Catalogue) (text : String) : Except Error Board :=
  match Board.read text (some catalogue.symbols) with
  | .ok board => .ok board
  | .error (.malformed fault text offset) => .error (.ruleset (.badBoard fault text offset) source)
  | .error (.number fault) => .error (.number fault)

/-- The texts of a list of texts. -/
def textsOf? : List Datum → Option (List String)
  | [] => some []
  | .text s :: rest => (textsOf? rest).map (s :: ·)
  | _ => none

/-- The colors of these names. -/
def colorsNamed (source : Option String) : List String → Except Error (List Color)
  | [] => .ok []
  | name :: names =>
    match Color.named? name with
    | none => .error (.ruleset (.unknownColor name) source)
    | some color => (colorsNamed source names).map (color :: ·)

/-- The turn order that a value describes; white and black without one. -/
def colorsOf (source : Option String) (colors : Option Datum) : Except Error (List Color) :=
  match colors.map Datum.opened with
  | none => .ok [.white, .black]
  | some (.list items) =>
    match textsOf? items with
    | some names => colorsNamed source names
    | none => .error (.ruleset .badColors source)
  | some _ => .error (.ruleset .badColors source)

/-- The keys of the description of a ruleset. -/
def rulesetKeys : List String := ["name", "colors", "board", "pieces"]

/-- The ruleset that a value describes. `source` says where the value comes from; without it, errors
that come after the name is known are reported under the name. -/
def ofDatum (description : Datum) (source : Option String) : Report Ruleset :=
  match description.opened with
  | .mapping entries =>
    let strange := Datum.strangeKeys rulesetKeys entries
    if !strange.isEmpty then
      refuse (Datum.strangers rulesetKeys entries) (.unknownKeys strange) source
    else
      match Datum.lookup? entries "name" with
      | some (.text name) =>
        if (Text.strip name.toList).isEmpty then .fail (.ruleset .noName source)
        else
          let source := some ((source.filter (· ≠ "")).getD name)
          match (Datum.lookup? entries "pieces").map Datum.opened with
          | some (.mapping (piece :: pieces)) => do
            let catalogue := Catalogue.mk (← kindsOf source (piece :: pieces))
            match Datum.lookup? entries "board" with
            | some (.text text) => do
              let board ← Report.of (boardOf source catalogue text)
              let colors ← Report.of (colorsOf source (Datum.lookup? entries "colors"))
              Report.of (make name catalogue board colors)
            | _ => .fail (.ruleset .noBoard source)
          | _ => .fail (.ruleset .noPieces source)
      | _ => .fail (.ruleset .noName source)
  | _ => .fail (.ruleset .notMapping source)

end Ruleset

end VariantChess
